import CurrencyWallet.Timestamp
import CurrencyWallet.UserId

/-!
# Users

What a new user states and what is kept of it.
-/

namespace CurrencyWallet

/-- What is stated to register a user. -/
structure NewUser where
  /-- The name, which no other user may have. -/
  username : String
  /-- The address, which no other user may have. -/
  email : String
  passwordHash : String
deriving DecidableEq

/-- A registered user. -/
structure User where
  /-- The id, which is also that of the wallet. -/
  id : UserId
  username : String
  email : String
  passwordHash : String
  createdAt : Timestamp
deriving DecidableEq

end CurrencyWallet
