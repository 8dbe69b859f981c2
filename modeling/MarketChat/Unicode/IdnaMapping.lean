import MarketChat.Unicode.IdnaMappingData
/-!
# The IDNA status of a code point

Mapping a domain name looks every code point up in the IDNA mapping table and keeps it,
replaces it, drops it or refuses it. *Deviations* (`ß`, `ς` and the zero-width joiners) are
the code points whose treatment changed between the two generations of internationalized
domain names; nontransitional processing keeps them as they are.

Main definitions: `Unicode.IdnaStatus`, `Unicode.idnaStatus`.
-/

namespace MarketChat

namespace Unicode

/-- What mapping a domain name does with a code point. -/
inductive IdnaStatus where
  /-- The code point is kept. -/
  | valid
  /-- The code point is replaced by these code points. -/
  | mapped (replacement : List Nat)
  /-- The code point is kept by nontransitional processing. -/
  | deviation
  /-- The code point is dropped. -/
  | ignored
  /-- The code point is refused. -/
  | disallowed
  deriving Repr, DecidableEq, Inhabited

/-- The status a table word spells: its letter, then for a mapping the code points. -/
def IdnaStatus.ofText (s : String) : IdnaStatus :=
  match s.toList with
  | 'V' :: _ => .valid
  | 'M' :: rest => .mapped (hexPoints (String.ofList rest))
  | 'D' :: _ => .deviation
  | 'I' :: _ => .ignored
  | _ => .disallowed

/-- The IDNA mapping table, read. -/
def idnaMapping : Runs IdnaStatus := Runs.ofText IdnaStatus.ofText idnaMappingText

/-- The status of a code point; code points beyond the table are refused. -/
def idnaStatus (c : Nat) : IdnaStatus := idnaMapping.find .disallowed c

/-- A code point a finished label may hold: a valid one or a deviation. -/
def IdnaStatus.isKept : IdnaStatus → Bool
  | .valid | .deviation => true
  | _ => false

end Unicode

end MarketChat
