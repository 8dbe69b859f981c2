import MarketChat.Url.Punycode
import MarketChat.Unicode.IdnaMapping
import MarketChat.Unicode.Normalization
import MarketChat.Unicode.Bidi
import MarketChat.Unicode.Joining
/-!
# Domain names to ASCII

A special URL's domain is brought to its ASCII form by internationalized domain name
processing, nontransitional (deviations are kept), with hyphens, DNS lengths and the ASCII
letter-digit-hyphen rule left unchecked:

1. every code point is mapped by its IDNA status (`Unicode.idnaStatus`): kept, replaced,
   dropped, or refused;
2. the result is brought to canonical composed form (`Unicode.nfc`);
3. a character a URL host may not hold (a control, a space, DEL, one of `%#/:<>?@[\]^|`) is
   refused;
4. the name is cut into labels at `.`; a label starting with `xn--` must be ASCII, must
   decode as Punycode, and must decode to a label that is not empty and not all ASCII;
5. every label, decoded, must be valid: in composed form, not starting with `xn--` or with a
   mark, holding only valid code points and deviations, and using the zero-width joiners
   only where the joining rules allow them;
6. when some label holds right-to-left text, every label must keep its direction
   unambiguous (`bidiLabelValid`);
7. a label beyond ASCII is written as `xn--` and its Punycode.

A name that fails any step has no ASCII form.

Main definitions: `Url.domainToAscii`, `Url.labelValid`, `Url.bidiLabelValid`.
-/

namespace MarketChat

namespace Url

open Unicode

/-- The ASCII characters a URL host may not hold. -/
def forbiddenAscii (c : Char) : Bool :=
  c.toNat ≤ 0x20 || c.toNat = 0x7F || "%#/:<>?@[\\]^|".toList.contains c

/-- Map every code point of a name by its status; `none` when one is refused. -/
def mapDomain (cs : List Nat) : Option (List Nat) :=
  (cs.mapM fun c => match idnaStatus c with
    | .valid | .deviation => some [c]
    | .mapped replacement => some replacement
    | .ignored => some []
    | .disallowed => none).map List.flatten

/-- The prefix of a label written in Punycode. -/
def acePrefix : List Nat := [0x78, 0x6E, 0x2D, 0x2D]

/-- The zero-width non-joiner. -/
def zwnj : Nat := 0x200C

/-- The zero-width joiner. -/
def zwj : Nat := 0x200D

/-- The first code point past any transparent ones joins in the given way. -/
def joinsAs (ok : JoiningType → Bool) (cs : List Nat) : Bool :=
  match cs.dropWhile (joiningType · = .transparent) with
  | c :: _ => ok (joiningType c)
  | [] => false

/-- A joiner between `before` (nearest first) and `after` is allowed: right after a virama
(combining class 9), or, for the non-joiner, between a character joining to the left and
one joining to the right, transparent characters apart. -/
def joinerAllowed (before : List Nat) (c : Nat) (after : List Nat) : Bool :=
  (match before with
   | b :: _ => combiningClass b = 9
   | [] => false) ||
  (c = zwnj && joinsAs (fun t => t = .left || t = .dual) before &&
    joinsAs (fun t => t = .right || t = .dual) after)

/-- Every joiner of a label is allowed; `before` holds the code points passed, nearest
first. -/
def joinersValid : List Nat → List Nat → Bool
  | _, [] => true
  | before, c :: rest =>
    (if c = zwnj || c = zwj then joinerAllowed before c rest else true) &&
      joinersValid (c :: before) rest

/-- A label meets the validity criteria of nontransitional processing. -/
def labelValid (label : List Nat) : Bool :=
  isNfc label && !acePrefix.isPrefixOf label &&
    (match label with
     | c :: _ => !isMark c
     | [] => true) &&
    label.all (fun c => (idnaStatus c).isKept) && joinersValid [] label

/-- A code point of right-to-left text. -/
def isRightToLeft (c : Nat) : Bool :=
  match bidiClass c with
  | .rightToLeft | .arabicLetter | .arabicNumber => true
  | _ => false

/-- The classes a left-to-right label may hold. -/
def leftToRightAllowed : BidiClass → Bool
  | .leftToRight | .europeanNumber | .europeanSeparator | .commonSeparator
  | .europeanTerminator | .otherNeutral | .boundaryNeutral | .nonspacingMark => true
  | _ => false

/-- The classes a right-to-left label may hold. -/
def rightToLeftAllowed : BidiClass → Bool
  | .rightToLeft | .arabicLetter | .arabicNumber | .europeanNumber | .europeanSeparator
  | .commonSeparator | .europeanTerminator | .otherNeutral | .boundaryNeutral
  | .nonspacingMark => true
  | _ => false

/-- A label keeps its direction unambiguous: it starts with a strong left-to-right or
right-to-left character; a left-to-right label holds no right-to-left class and ends, marks
apart, with a left-to-right character or a European digit; a right-to-left label holds no
left-to-right character, ends, marks apart, with a right-to-left character or a digit, and
does not mix European and Arabic digits. An empty label has no direction to keep. -/
def bidiLabelValid (label : List Nat) : Bool :=
  let classes := label.map bidiClass
  let last := (classes.reverse.dropWhile (· = .nonspacingMark)).head?
  match classes with
  | [] => true
  | .leftToRight :: _ =>
    classes.all leftToRightAllowed &&
      (match last with
       | some .leftToRight | some .europeanNumber | none => true
       | some _ => false)
  | .rightToLeft :: _ | .arabicLetter :: _ =>
    classes.all rightToLeftAllowed &&
      (match last with
       | some .rightToLeft | some .arabicLetter | some .europeanNumber
       | some .arabicNumber => true
       | _ => false) &&
      !(classes.contains .europeanNumber && classes.contains .arabicNumber)
  | _ => false

/-- A label after mapping, decoded when it is written in Punycode; `none` when it is not a
valid label. -/
def checkedLabel (label : List Nat) : Option (List Nat) :=
  if acePrefix.isPrefixOf label then
    if label.any (0x80 ≤ ·) then none
    else
      match Punycode.decode ((label.drop 4).map Char.ofNat) with
      | none => none
      | some decoded =>
        let d := decoded.map Char.toNat
        if d.isEmpty || d.all (· < 0x80) then none
        else if labelValid d then some d else none
  else if labelValid label then some label else none

/-- A label in ASCII: as it is when ASCII, else `xn--` and its Punycode. -/
def labelToAscii (label : List Nat) : String :=
  let cs := label.map Char.ofNat
  if label.all (· < 0x80) then String.ofList cs
  else "xn--" ++ Punycode.encode cs

/-- The ASCII form of a domain, or `none` when it has none. -/
def domainToAscii (domain : List Char) : Option String := do
  let mapped ← mapDomain (domain.map Char.toNat)
  let normal := nfc mapped
  if normal.any fun c => c < 0x80 && forbiddenAscii (Char.ofNat c) then none
  let labels ← (normal.splitOn 0x2E).mapM checkedLabel
  if labels.any (·.any isRightToLeft) && !labels.all bidiLabelValid then none
  pure (".".intercalate (labels.map labelToAscii))

end Url

end MarketChat
