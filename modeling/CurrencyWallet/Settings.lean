import CurrencyWallet.Decimal.Parser
import CurrencyWallet.Power
import CurrencyWallet.Rates.Cache
import CurrencyWallet.Text.Blank

/-!
# Settings

The settings of the service come from the environment. A variable that is missing or
cannot be read leaves the default. All times are in milliseconds.
-/

namespace CurrencyWallet

/-- How to reach the database. -/
structure DatabaseSettings where
  url : String := "postgres://localhost/fxwallet"
  maxConnections : Nat := 16
  acquireTimeout : Nat := 5000
deriving DecidableEq

/-- How to get rates and how long to keep them. -/
structure RateSettings where
  providerAddress : String := "http://localhost:50051"
  cacheTtl : Nat := 300000
  requestTimeout : Nat := 3000
  /-- From how many quotes on stale ones are evicted. -/
  maxCacheEntries : Nat := 1024
deriving DecidableEq

def RateSettings.cachePolicy (s : RateSettings) : CachePolicy :=
  ⟨s.cacheTtl, s.maxCacheEntries⟩

/-- The settings of the service. -/
structure Settings where
  database : DatabaseSettings := {}
  rates : RateSettings := {}
  requestTimeout : Nat := 10000
  logLevel : String := "info"
  logJson : Bool := false
deriving DecidableEq

/-- What is wrong with settings. -/
inductive SettingsError where
  | noDatabaseUrl
  | noConnections
  | noProviderAddress
  | zeroCacheTtl
  | zeroRateTimeout
  | zeroRequestTimeout
deriving DecidableEq

def SettingsError.message : SettingsError → String
  | noDatabaseUrl => "Database URL cannot be empty"
  | noConnections => "Database pool needs at least one connection"
  | noProviderAddress => "Rate provider address cannot be empty"
  | zeroCacheTtl => "Rate cache TTL cannot be zero"
  | zeroRateTimeout => "Rate request timeout cannot be zero"
  | zeroRequestTimeout => "Request timeout cannot be zero"

namespace Settings

/-- Reads a whole number below a limit, with blanks around it or not, and with a plus
sign or not. -/
def readNat? (limit : Nat) (text : String) : Option Nat :=
  let digits := match Text.trim text.toList with
    | '+' :: cs => cs
    | cs => cs
  (natOfDigits? digits).filter (· < limit)

/-- Reads a truth value, with blanks around it or not. -/
def readBool? (text : String) : Option Bool :=
  match String.ofList (Text.trim text.toList) with
  | "true" => some true
  | "false" => some false
  | _ => none

def load (environment : String → Option String) : Settings :=
  let number (limit : Nat) (name : String) : Option Nat := (environment name).bind (readNat? limit)
  let standard : Settings := {}
  { database :=
      { url := (environment "DATABASE_URL").getD standard.database.url
        maxConnections :=
          (number (2 ^ (32 : Nat)) "DATABASE_MAX_CONNECTIONS").getD standard.database.maxConnections
        acquireTimeout :=
          ((number (2 ^ (64 : Nat)) "DATABASE_ACQUIRE_TIMEOUT_SECS").map (1000 * ·)).getD
            standard.database.acquireTimeout }
    rates :=
      { providerAddress := (environment "RATES_PROVIDER_ADDR").getD standard.rates.providerAddress
        cacheTtl :=
          ((number (2 ^ (64 : Nat)) "RATES_CACHE_TTL_SECS").map (1000 * ·)).getD
            standard.rates.cacheTtl
        requestTimeout :=
          (number (2 ^ (64 : Nat)) "RATES_TIMEOUT_MS").getD standard.rates.requestTimeout }
    requestTimeout := (number (2 ^ (64 : Nat)) "REQUEST_TIMEOUT_MS").getD standard.requestTimeout
    logLevel := (environment "LOG_LEVEL").getD standard.logLevel
    logJson := ((environment "LOG_JSON").bind readBool?).getD standard.logJson }

/-- Checks the settings and names the first that cannot work. -/
def validate (s : Settings) : Except SettingsError Unit :=
  if s.database.url.isEmpty then .error .noDatabaseUrl
  else if s.database.maxConnections = 0 then .error .noConnections
  else if s.rates.providerAddress.isEmpty then .error .noProviderAddress
  else if s.rates.cacheTtl = 0 then .error .zeroCacheTtl
  else if s.rates.requestTimeout = 0 then .error .zeroRateTimeout
  else if s.requestTimeout = 0 then .error .zeroRequestTimeout
  else .ok ()

end Settings

end CurrencyWallet
