/-
# What can be wrong with a URL

Key definitions: `Url.Error`, `Url.Error.message`.
-/

namespace BroadcastChat.Url

/-- Why a text is no URL. -/
inductive Error where
  | emptyHost
  | port
  /-- The host is no domain name, not even an international one. -/
  | domain
  | ipv4
  | ipv6
  deriving DecidableEq, Repr

/-- The wording of what is wrong. -/
def Error.message : Error → String
  | .emptyHost => "empty host"
  | .port => "invalid port number"
  | .domain => "invalid international domain name"
  | .ipv4 => "invalid IPv4 address"
  | .ipv6 => "invalid IPv6 address"

end BroadcastChat.Url
