import ToolRelay.Text.Quoted
import ToolRelay.Url.Host
import ToolRelay.Url.Punycode

/-!
# Domain names

A domain name is mapped to lower case and compatible forms, split into labels, and written in
ASCII: a label with other characters becomes `xn--` and its punycode. A label that is written so
already has to denote such a label.
-/

namespace ToolRelay.Url

/-- The lower-case form of a letter of the Latin, Greek and Cyrillic blocks, and the ASCII form of a
full-width character. -/
def foldChar (c : Char) : Char :=
  let n := c.toNat
  let lower : Nat :=
    if 0x41 ≤ n ∧ n ≤ 0x5a then n + 0x20
    else if (0xc0 ≤ n ∧ n ≤ 0xde) ∧ n ≠ 0xd7 then n + 0x20
    else if (0x100 ≤ n ∧ n ≤ 0x12f) ∨ (0x132 ≤ n ∧ n ≤ 0x137) ∨ (0x14a ≤ n ∧ n ≤ 0x177) then
      n + (1 - n % 2)
    else if (0x139 ≤ n ∧ n ≤ 0x148) ∨ (0x179 ≤ n ∧ n ≤ 0x17e) then n + n % 2
    else if n = 0x178 then 0xff
    else if (0x391 ≤ n ∧ n ≤ 0x3ab) ∧ n ≠ 0x3a2 then n + 0x20
    else if 0x400 ≤ n ∧ n ≤ 0x40f then n + 0x50
    else if 0x410 ≤ n ∧ n ≤ 0x42f then n + 0x20
    else if 0xff21 ≤ n ∧ n ≤ 0xff3a then n - 0xff21 + 0x61
    else if 0xff01 ≤ n ∧ n ≤ 0xff5e then n - 0xff01 + 0x21
    else if n = 0x3002 ∨ n = 0xff61 then 0x2e
    else if n = 0xa0 ∨ n = 0x3000 then 0x20
    else n
  Char.ofNat lower

/-- The characters that a domain name may have but that do not count. -/
def isIgnored (c : Char) : Bool :=
  [0xad, 0x200b, 0x2060, 0x2064, 0xfeff].contains c.toNat || (0xfe00 ≤ c.toNat && c.toNat ≤ 0xfe0f)

/-- A zero-width character that joins or parts its neighbours. -/
def isJoiner (c : Char) : Bool := c.toNat == 0x200c || c.toNat == 0x200d

/-- A character that a label beyond ASCII may have. -/
def allowedInLabel (c : Char) : Bool :=
  if c.toNat < 128 then !forbiddenInDomain c
  else !Text.isBlank c && !isJoiner c && foldChar c == c

/-- A label beyond ASCII is well formed: it starts with a character of its own. -/
def validLabel (label : List Char) : Bool :=
  label.all allowedInLabel && !(label.head?.any Text.isHidden)

/-- What marks a label in punycode. -/
def punycodeMark : List Char := ['x', 'n', '-', '-']

/-- The ASCII form of a label that is mapped already. -/
def labelToAscii? (label : List Char) : Option (List Char) :=
  if label.all (·.toNat < 128) then
    if punycodeMark.isPrefixOf label then
      match Punycode.decode? (label.drop 4) with
      | none => none
      | some decoded =>
        if decoded.all (·.toNat < 128) || !validLabel decoded then none
        else if Punycode.encode decoded == label.drop 4 then some label else none
    else some label
  else if validLabel label then some (punycodeMark ++ Punycode.encode label)
  else none

/-- The ASCII form of a domain name. -/
def domainToAscii? (cs : List Char) : Option (List Char) := do
  let mapped := (cs.filter fun c => !isIgnored c).map foldChar
  let labels ← (splitAtChar '.' mapped).mapM labelToAscii?
  let out := ['.'].intercalate labels
  if out.any forbiddenInDomain then none else some out

/-- Read the host of a special scheme. -/
def readHost (cs : List Char) : Except UrlFault Host :=
  match cs with
  | '[' :: rest =>
    if rest.getLast? = some ']' then
      match readIpv6? rest.dropLast with
      | some ns => .ok (.ipv6 ns)
      | none => .error .invalidIpv6
    else .error .invalidIpv6
  | cs =>
    match (Text.decodeStrict? (percentDecode cs)).bind domainToAscii? with
    | none => .error .invalidDomainName
    | some [] => .error .emptyHost
    | some name =>
      if endsInNumber name then
        match readIpv4? name with
        | some n => .ok (.ipv4 n)
        | none => .error .invalidIpv4
      else .ok (.domain (String.ofList name))

/-- Read the host of a scheme that is not special. -/
def readOpaqueHost (cs : List Char) : Except UrlFault Host :=
  match cs with
  | '[' :: _ => readHost cs
  | cs =>
    if cs.any forbiddenInHost then .error .invalidHostChar
    else .ok (.opaqueText (String.ofList (percentEncode isControl cs)))

end ToolRelay.Url
