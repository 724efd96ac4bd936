/-!
# The network

Whether a service on another machine can be reached at all, and if not, what the system says
about it.
-/

namespace CurrencyWallet

/-- Where a service is sought. -/
inductive Place where
  /-- On a machine whose number is known. -/
  | machine
  /-- On a machine whose name has to be looked up first. -/
  | named
  /-- Behind a socket in the files of this machine. -/
  | socket
deriving DecidableEq

/-- The way to a service. -/
inductive Link where
  /-- The service can be reached. -/
  | up
  /-- This machine has no network, and no service of its own. -/
  | down
deriving DecidableEq

/-- Why a service cannot be reached, in the system's words. -/
def Link.obstacle? : Link → Place → Option String
  | up, _ => none
  | down, .machine => some "Network is unreachable (os error 101)"
  | down, .named =>
      some "failed to lookup address information: Temporary failure in name resolution"
  | down, .socket => some "No such file or directory (os error 2)"

end CurrencyWallet
