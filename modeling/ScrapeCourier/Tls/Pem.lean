import ScrapeCourier.Text.Base64

namespace ScrapeCourier.Pem

inductive Kind
  | certificate
  | privateKey
  | publicKey
  | revocationList
  | certificateRequest
  | helloConfig
  deriving DecidableEq, Repr

def Kind.ofLabel? (label : Octets) : Option Kind :=
  ([("CERTIFICATE", .certificate), ("PRIVATE KEY", .privateKey), ("RSA PRIVATE KEY", .privateKey),
    ("EC PRIVATE KEY", .privateKey), ("PUBLIC KEY", .publicKey), ("X509 CRL", .revocationList),
    ("CERTIFICATE REQUEST", .certificateRequest), ("ECHCONFIG", .helloConfig)].find?
      fun (name, _) => Octets.ofAscii name = label).map (·.2)

structure Block where
  kind : Kind
  content : Octets

def isLineEnd (b : UInt8) : Bool := b = Octet.cr || b = Octet.lf

def hyphen : UInt8 := 45

def beginMark : Octets := Octets.ofAscii "-----BEGIN "

def endMark (label : Octets) : Octets :=
  Octets.ofAscii "-----END " ++ label ++ Octets.ofAscii "-----"

def label? (line : Octets) : Option Octets :=
  let tail := line.reverse.takeWhile fun b => b = hyphen || b = Octet.space
  if tail.count hyphen = 5 then
    let spaces := tail.reverse.takeWhile (· = Octet.space)
    some ((line.take (line.length - (tail.length - spaces.length))).drop beginMark.length)
  else none

/-- Reads the blocks in lines, the label of the open block and its text so far being given. A block
begun inside another goes on with the text of that one. -/
def readLines (label : Option Octets) (text : Octets) : List Octets → Option (List Block)
  | [] => if label.isNone then some [] else none
  | line :: rest =>
    if beginMark.isPrefixOf line then
      (label? line).bind fun l => readLines (some l) text rest
    else match label with
      | none => readLines none text rest
      | some l =>
        if (endMark l).isPrefixOf line then
          match Kind.ofLabel? l with
          | none => readLines none [] rest
          | some kind =>
            (Base64.decode? text).bind fun content =>
              (readLines none [] rest).map (⟨kind, content⟩ :: ·)
        else readLines label (text ++ line) rest

/-- The blocks of a file. There are none if a block is left open, begins with a bad line or has
contents that cannot be read. -/
def read? (s : Octets) : Option (List Block) := readLines none [] (s.splitOnP isLineEnd)

end ScrapeCourier.Pem
