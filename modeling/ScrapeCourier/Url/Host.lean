import ScrapeCourier.Idna.Domain
import ScrapeCourier.Url.Ipv6
import ScrapeCourier.Url.Percent

namespace ScrapeCourier.Url

inductive UrlError
  | noBase
  | opaqueBase
  | emptyHost
  | badPort
  | badIpv4
  | badIpv6
  | badDomain
  | badHostCharacter
  deriving DecidableEq, Repr

def UrlError.message : UrlError → String
  | .noBase => "relative URL without a base"
  | .opaqueBase => "relative URL with a cannot-be-a-base base"
  | .emptyHost => "empty host"
  | .badPort => "invalid port number"
  | .badIpv4 => "invalid IPv4 address"
  | .badIpv6 => "invalid IPv6 address"
  | .badDomain => "invalid international domain name"
  | .badHostCharacter => "invalid domain character"

inductive Host
  | empty
  | domain (name : List Char)
  | ipv4 (address : Ipv4)
  | ipv6 (address : Ipv6)
  | literal (name : List Char)
  deriving DecidableEq

namespace Host

def text : Host → List Char
  | .empty => []
  | .domain name => name
  | .ipv4 address => address.text
  | .ipv6 address => '[' :: address.text ++ [']']
  | .literal name => name

def bracketed? : List Char → Option (Except UrlError Host)
  | '[' :: s =>
    if s.getLast? = some ']' then
      match Ipv6.read? s.dropLast with
      | some address => some (.ok (.ipv6 address))
      | none => some (.error .badIpv6)
    else some (.error .badIpv6)
  | _ => none

def read (s : List Char) : Except UrlError Host :=
  match bracketed? s with
  | some r => r
  | none =>
    match (Utf8.decode? (Percent.decode (Utf8.encode s))).bind Idna.toAscii? with
    | none => .error .badDomain
    | some [] => .error .emptyHost
    | some name =>
      if Ipv4.endsInNumber name then
        match Ipv4.read? name with
        | some address => .ok (.ipv4 address)
        | none => .error .badIpv4
      else .ok (.domain name)

def isForbidden (c : Char) : Bool := "\x00\t\n\r #/:<>?@[\\]^|".toList.contains c

def readLiteral (s : List Char) : Except UrlError Host :=
  match bracketed? s with
  | some r => r
  | none =>
    if s.isEmpty then .ok .empty
    else if s.any isForbidden then .error .badHostCharacter
    else .ok (.literal (Percent.encode Percent.isControl s))

end Host

end ScrapeCourier.Url
