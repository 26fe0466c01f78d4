/-
# Hosts

A host is an IPv6 address between brackets, an IPv4 address if its last part
is a number, or else a domain name. Before it is told which, percent-encoding
is undone and the name is brought into its ASCII form.

Key definitions: `Host`, `Host.parse`, `Host.text`.
-/
import BroadcastChat.Text.Percent
import BroadcastChat.Url.Domain
import BroadcastChat.Url.Ipv4
import BroadcastChat.Url.Ipv6

namespace BroadcastChat.Url

open Text

/-- Where a server is. -/
inductive Host where
  | domain (name : String)
  | ipv4 (address : Ipv4)
  | ipv6 (address : Ipv6)
  deriving DecidableEq, Repr

namespace Host

/-- A host that is not between brackets. -/
def parseName (cs : List Char) : Except Error Host :=
  let name := Utf8.decodeLossy (Percent.decode (Utf8.encode (String.ofList cs)))
  match Domain.toAscii? name with
  | none => .error .domain
  | some name =>
    if name = "" then .error .emptyHost
    else if Ipv4.endsInNumber name.toList then (Ipv4.parse name.toList).map .ipv4
    else .ok (.domain name)

/-- Reads a host. -/
def parse : List Char → Except Error Host
  | [] => .error .emptyHost
  | '[' :: cs =>
    if cs.getLast? = some ']' then (Ipv6.parse cs.dropLast).map .ipv6 else .error .ipv6
  | cs => parseName cs

/-- How a host is written. -/
def text : Host → String
  | .domain name => name
  | .ipv4 address => address.text
  | .ipv6 address => s!"[{address.text}]"

end Host

end BroadcastChat.Url
