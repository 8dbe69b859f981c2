import MarketChat.Notify.Basic
import Mathlib
/-!
# Notification bodies

The body of a notification is its message's text cut after the configured number of characters
(Unicode scalar values), with `...` after a cut. Cutting counts characters, not bytes: a text of
exactly the limit is kept whole, and a longer one keeps its first `n` characters.

Seen as UTF-8, the cut falls between two characters of the text. The body's bytes are the text's
bytes up to a valid position of the text (`String.Pos.Raw.IsValid`, the byte offset of its
`n`-th character), then the three bytes of `...`; so no multi-byte sequence is ever split, and a
body that was cut has exactly `n + 3` characters.

Main statement: `Notification.build_body_cut_at_character`.
-/

namespace MarketChat

namespace Notification

variable (text : String) (n : Nat)

/-- A text of at most `n` characters is kept whole. -/
theorem truncate_of_length_le (h : text.length ≤ n) : truncate text n = text := by
  have : ¬text.toList.length > n := by rw [String.length_toList]; omega
  simp only [truncate, this, if_false]

/-- A longer text keeps its first `n` characters, then `...`. -/
theorem truncate_of_lt_length (h : n < text.length) :
    truncate text n = String.ofList (text.toList.take n) ++ "..." := by
  have : text.toList.length > n := by rw [String.length_toList]; omega
  simp only [truncate, this, if_true]

/-- The text is its first `n` characters followed by the rest, byte for byte. -/
theorem toByteArray_eq_take_append_drop :
    text.toByteArray =
      (String.ofList (text.toList.take n)).toByteArray ++
        (String.ofList (text.toList.drop n)).toByteArray := by
  rw [← String.toByteArray_append, ← String.ofList_append, List.take_append_drop,
    String.ofList_toList]

/-- The byte offset of the `n`-th character is a position between two characters. -/
theorem isValid_offset_take :
    (⟨(String.ofList (text.toList.take n)).utf8ByteSize⟩ : String.Pos.Raw).IsValid text :=
  String.Pos.Raw.isValid_iff_exists_take_toList.2 ⟨n, rfl⟩

/-- The text's bytes before the `n`-th character are those of its first `n` characters. -/
theorem extract_offset_take :
    text.toByteArray.extract 0 (String.ofList (text.toList.take n)).utf8ByteSize =
      (String.ofList (text.toList.take n)).toByteArray := by
  rw [toByteArray_eq_take_append_drop text n]
  exact ByteArray.extract_append_eq_left String.size_toByteArray.symm

/-- **The body of a notification.** It is the message's text when that has at most `n`
characters; otherwise it is the first `n` characters followed by `...`, so `n + 3` characters in
all, and its bytes are the text's bytes up to a position between two characters, followed by
those of `...`. -/
theorem build_body_cut_at_character (c : ChatConfig) (label : String) (chatId : Int) :
    let n := c.notificationBodyLimit
    let body := (build c label text chatId).body
    (text.length ≤ n → body = text) ∧
    (n < text.length →
      body.toList = text.toList.take n ++ ['.', '.', '.'] ∧ body.length = n + 3 ∧
      ∃ cut : String.Pos.Raw, cut.IsValid text ∧
        body.toByteArray = text.toByteArray.extract 0 cut.byteIdx ++ "...".toByteArray) := by
  intro n body
  refine ⟨truncate_of_length_le text n, fun h => ?_⟩
  have hbody : body = String.ofList (text.toList.take n) ++ "..." :=
    truncate_of_lt_length text n h
  have htake : (text.toList.take n).length = n := by
    rw [List.length_take, String.length_toList]
    omega
  refine ⟨?_, ?_, _, isValid_offset_take text n, ?_⟩
  · rw [hbody, String.toList_append, String.toList_ofList]
    rfl
  · rw [hbody, String.length_append, String.length_ofList, htake]
    rfl
  · rw [hbody, String.toByteArray_append, extract_offset_take]

-- two-byte and three-byte characters count once each
example : truncate "é€" 2 = "é€" := by decide
example : truncate "é€a" 2 = "é€..." := by decide

end Notification

end MarketChat
