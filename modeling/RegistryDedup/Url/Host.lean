import RegistryDedup.Idna.Domain
import RegistryDedup.Url.Address
import RegistryDedup.Url.Basic

/-!
# Hosts of URLs

- `Url.readHost`: the host of a URL of a known kind: an address, or a name in ASCII. Its characters
  may be given by number.
- `Url.readOpaqueHost`: the host of any other URL. It is kept as it is unless it is an address
  between brackets.
-/

namespace RegistryDedup.Url

open Text

/-- Characters that no host has. -/
def isForbiddenInHost (c : Char) : Bool :=
  "\x00\t\n\r #/:<>?@[\\]^|".toList.contains c

/-- Characters that no name has. -/
def isForbiddenInDomain (c : Char) : Bool :=
  isForbiddenInHost c || isControl c || c == '%'

/-- An address between brackets. -/
def readBracketed (host : List Char) : Except UrlError (List Char) :=
  if host.getLast? = some ']' then
    match Ipv6.read? (host.drop 1).dropLast with
    | some words => .ok ('[' :: Ipv6.text words ++ [']'])
    | none => .error .badIpv6
  else .error .badIpv6

/-- A name in ASCII. -/
def readDomain (host : List Char) : Except UrlError (List Char) :=
  match (Utf8.decode (percentDecoded host)).toOption.bind Idna.toAscii with
  | some domain => if domain.any isForbiddenInDomain then .error .badDomain else .ok domain
  | none => .error .badDomain

/-- A host that is an address or a name. -/
def readHost (host : List Char) : Except UrlError (List Char) := do
  if host.head? = some '[' then readBracketed host
  else
    let domain ← readDomain host
    if domain.isEmpty then throw .emptyHost
    else if Ipv4.isMeant domain then
      match Ipv4.read? domain with
      | some n => return Ipv4.text n
      | none => throw .badIpv4
    else return domain

/-- A host that is kept as it is. -/
def readOpaqueHost (host : List Char) : Except UrlError (List Char) :=
  if host.head? = some '[' then readBracketed host
  else if host.any isForbiddenInHost then .error .badHostCharacter
  else .ok (percentEncoded isControl host)

end RegistryDedup.Url
