import EdgeFleet.Net.ServerName

/-!
# Encrypted connections

What a client shows of itself, and whom it trusts to vouch for servers. A configuration is kept as
text, and says which name a server must prove; `Config.connector?` makes it ready to connect with.
Keys and certificates are read by a library, which is given: `Library` tells what it can make use
of.
-/

namespace EdgeFleet.Tls

/-- A certificate and the key that belongs to it, as PEM text. -/
structure Identity where
  certificate : String
  key : String
  deriving Repr, DecidableEq

/-- What a client shows to servers, if anything, and the certificates of the authorities that may
vouch for a server. -/
structure Credentials where
  identity : Option Identity
  authorities : List String
  deriving Repr, DecidableEq

/-- How connections are to be encrypted. -/
structure Config where
  credentials : Credentials
  /-- The name that a server must prove. Without it, that is the host that is dialled. -/
  serverName : Option String
  deriving Repr, DecidableEq

/-- The configuration with a name that a server must prove. -/
def Config.pinned (config : Config) (name : String) : Config :=
  { config with serverName := some name }

/-- What reads keys and certificates. -/
structure Library where
  /-- Whether all of the credentials can be read, and a key belongs to its certificate. -/
  accepts : Credentials → Bool

/-- Credentials that can be made use of, and the name that a server must prove. -/
structure Connector where
  credentials : Credentials
  server : Net.ServerName
  deriving Repr, DecidableEq

/-- Makes a configuration ready to connect to a host. That fails if the library can make no use of
the credentials, or if what a server must prove is no name. -/
def Config.connector? (library : Library) (config : Config) (host : String) : Option Connector :=
  if library.accepts config.credentials then
    (Net.ServerName.parse? (config.serverName.getD host)).map (⟨config.credentials, ·⟩)
  else none

end EdgeFleet.Tls
