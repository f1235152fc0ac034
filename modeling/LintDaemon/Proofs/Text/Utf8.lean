import LintDaemon.Proofs.Text.Lines
import LintDaemon.Text.Incoming
import Mathlib.Tactic.SplitIfs

/-!
# Encoded text reads back

The bytes of a text are read as that text, whatever bytes follow.

* `lead_ascii`, `lead_two`, `lead_three`, `lead_four`: what the first byte of a character owes, by
  the number of its bytes.
* `scan_encodeChar_append`: the bytes of a character are read as that character.
* `decodeLossy_encode_append`, `decodeHeldBack_encode_append`: the same for a text, in both ways to
  read bytes that may break off.
* `decodeLossy_eq_nil_iff`: bytes that are there are read as something.
* `Incoming.decode_encode`, `Incoming.firstLine_encode`: text that arrives as a whole is read
  without a fault, and so is its first line.
-/

namespace LintDaemon.Text.Utf8

/-! ## The first byte -/

section Lead

variable {b : UInt8}

/-- A byte below 80 is a character. -/
theorem lead_ascii (h : b.toNat < 0x80) : lead b = .inl (.char (Char.ofNat b.toNat)) := by
  unfold lead
  exact if_pos h

/-- The first byte of two. -/
theorem lead_two (hlow : 0xC2 ≤ b.toNat) (hhigh : b.toNat < 0xE0) :
    lead b = .inr ⟨b.toNat - 0xC0, [b], (0x80, 0xBF), 0⟩ := by
  unfold lead
  dsimp only
  rw [if_neg (by omega), if_neg (by omega), if_pos hhigh]

/-- The first byte of three: the ranges behind E0 and ED are narrower. -/
theorem lead_three (hlow : 0xE0 ≤ b.toNat) (hhigh : b.toNat < 0xF0) :
    lead b = .inr ⟨b.toNat - 0xE0, [b],
      (if b.toNat = 0xE0 then 0xA0 else 0x80, if b.toNat = 0xED then 0x9F else 0xBF), 1⟩ := by
  unfold lead
  dsimp only
  rw [if_neg (by omega), if_neg (by omega), if_neg (by omega)]
  by_cases he0 : b.toNat = 0xE0
  · rw [if_pos he0, he0]
    rfl
  · by_cases hed : b.toNat = 0xED
    · rw [if_neg he0, if_pos hed, hed]
      rfl
    · rw [if_neg he0, if_neg hed, if_pos hhigh, if_neg he0, if_neg hed]

/-- The first byte of four: the ranges behind F0 and F4 are narrower. -/
theorem lead_four (hlow : 0xF0 ≤ b.toNat) (hhigh : b.toNat < 0xF5) :
    lead b = .inr ⟨b.toNat - 0xF0, [b],
      (if b.toNat = 0xF0 then 0x90 else 0x80, if b.toNat = 0xF4 then 0x8F else 0xBF), 2⟩ := by
  unfold lead
  dsimp only
  rw [if_neg (by omega), if_neg (by omega), if_neg (by omega), if_neg (by omega),
    if_neg (by omega), if_neg (by omega)]
  by_cases hf0 : b.toNat = 0xF0
  · rw [if_pos hf0, hf0]
    rfl
  · by_cases hf4 : b.toNat = 0xF4
    · rw [if_neg hf0, if_neg (by omega), if_pos hf4, hf4]
      rfl
    · rw [if_neg hf0, if_pos (by omega), if_neg hf0, if_neg hf4]

end Lead

/-! ## Further bytes -/

section Push

variable {b : UInt8} {value low high : Nat} {taken : List UInt8}

/-- The last byte that is owed makes the character. -/
theorem Partial.push?_last (hlow : low ≤ b.toNat) (hhigh : b.toNat ≤ high) :
    Partial.push? ⟨value, taken, (low, high), 0⟩ b =
      some (.inl (.char (Char.ofNat (value * 64 + (b.toNat - 0x80))))) :=
  if_pos ⟨hlow, hhigh⟩

/-- A byte before the last one leaves one fewer owed. -/
theorem Partial.push?_more {k : Nat} (hlow : low ≤ b.toNat) (hhigh : b.toNat ≤ high) :
    Partial.push? ⟨value, taken, (low, high), k + 1⟩ b =
      some (.inr ⟨value * 64 + (b.toNat - 0x80), b :: taken, (0x80, 0xBF), k⟩) :=
  if_pos ⟨hlow, hhigh⟩

end Push

/-! ## Scanning -/

section Scan

variable {b : UInt8} {p q : Partial} {piece : Piece}

/-- A first byte that is a character is one piece. -/
theorem scan_none_of_lead_inl (h : lead b = .inl piece) (rest : List UInt8) :
    scan none (b :: rest) = (piece :: (scan none rest).1, (scan none rest).2) := by
  rw [scan, h]

/-- A first byte that owes others begins a partial character. -/
theorem scan_none_of_lead_inr (h : lead b = .inr p) (rest : List UInt8) :
    scan none (b :: rest) = scan (some p) rest := by
  rw [scan, h]

/-- A byte that completes a character is one piece. -/
theorem scan_some_of_push_inl (h : p.push? b = some (.inl piece)) (rest : List UInt8) :
    scan (some p) (b :: rest) = (piece :: (scan none rest).1, (scan none rest).2) := by
  rw [scan, h]

/-- A byte that continues a character leaves it partial. -/
theorem scan_some_of_push_inr (h : p.push? b = some (.inr q)) (rest : List UInt8) :
    scan (some p) (b :: rest) = scan (some q) rest := by
  rw [scan, h]

end Scan

/-- A byte of a number below 256 has that number. -/
theorem toNat_ofNat_of_lt {n : Nat} (h : n < 256) : (UInt8.ofNat n).toNat = n := by
  rw [UInt8.toNat_ofNat', Nat.mod_eq_of_lt h]

/-- The bytes of a character are read as that character, whatever follows them. -/
theorem scan_encodeChar_append (c : Char) (rest : List UInt8) :
    scan none (String.utf8EncodeChar c ++ rest) =
      (.char c :: (scan none rest).1, (scan none rest).2) := by
  have hvalid : c.toNat < 0xD800 ∨ (0xDFFF < c.toNat ∧ c.toNat < 0x110000) := c.valid
  have hc : c.val.toNat = c.toNat := rfl
  have hofNat : ∀ n, n = c.toNat → Char.ofNat n = c := by
    rintro n rfl
    exact Char.ofNat_toNat c
  unfold String.utf8EncodeChar
  rw [hc]
  dsimp only
  split_ifs with h1 h2 h3
  · have hb := toNat_ofNat_of_lt (n := c.toNat) (by omega)
    rw [List.singleton_append, scan_none_of_lead_inl (lead_ascii (by omega)), hb, hofNat _ rfl]
  · have hb := toNat_ofNat_of_lt (n := c.toNat / 64 % 32 + 192) (by omega)
    have hb₁ := toNat_ofNat_of_lt (n := c.toNat % 64 + 128) (by omega)
    have hlead := lead_two (b := UInt8.ofNat (c.toNat / 64 % 32 + 192)) (by omega) (by omega)
    simp only [List.cons_append, List.nil_append]
    rw [scan_none_of_lead_inr hlead,
      scan_some_of_push_inl (Partial.push?_last (by omega) (by omega)), hb, hb₁,
      hofNat _ (by omega)]
  · have hb := toNat_ofNat_of_lt (n := c.toNat / 4096 % 16 + 224) (by omega)
    have hb₁ := toNat_ofNat_of_lt (n := c.toNat / 64 % 64 + 128) (by omega)
    have hb₂ := toNat_ofNat_of_lt (n := c.toNat % 64 + 128) (by omega)
    have hlead := lead_three (b := UInt8.ofNat (c.toNat / 4096 % 16 + 224)) (by omega) (by omega)
    simp only [List.cons_append, List.nil_append]
    rw [scan_none_of_lead_inr hlead,
      scan_some_of_push_inr (Partial.push?_more (by split_ifs <;> omega) (by split_ifs <;> omega)),
      scan_some_of_push_inl (Partial.push?_last (by omega) (by omega)), hb, hb₁, hb₂,
      hofNat _ (by omega)]
  · have hb := toNat_ofNat_of_lt (n := c.toNat / 262144 % 8 + 240) (by omega)
    have hb₁ := toNat_ofNat_of_lt (n := c.toNat / 4096 % 64 + 128) (by omega)
    have hb₂ := toNat_ofNat_of_lt (n := c.toNat / 64 % 64 + 128) (by omega)
    have hb₃ := toNat_ofNat_of_lt (n := c.toNat % 64 + 128) (by omega)
    have hlead := lead_four (b := UInt8.ofNat (c.toNat / 262144 % 8 + 240)) (by omega) (by omega)
    simp only [List.cons_append, List.nil_append]
    rw [scan_none_of_lead_inr hlead,
      scan_some_of_push_inr (Partial.push?_more (by split_ifs <;> omega) (by split_ifs <;> omega)),
      scan_some_of_push_inr (Partial.push?_more (by omega) (by omega)),
      scan_some_of_push_inl (Partial.push?_last (by omega) (by omega)), hb, hb₁, hb₂, hb₃,
      hofNat _ (by omega)]

/-- The bytes of a text put together. -/
theorem encode_append (first second : List Char) :
    encode (first ++ second) = encode first ++ encode second :=
  List.flatMap_append

/-- The bytes of a text are read as its characters, whatever follows them. -/
theorem scan_encode_append (s : List Char) (rest : List UInt8) :
    scan none (encode s ++ rest) =
      (s.map Piece.char ++ (scan none rest).1, (scan none rest).2) := by
  induction s with
  | nil => rfl
  | cons c s ih =>
    have hencode : encode (c :: s) = String.utf8EncodeChar c ++ encode s := List.flatMap_cons
    rw [hencode, List.append_assoc, scan_encodeChar_append, ih]
    rfl

/-- Bytes leave a piece or a partial character. -/
theorem eq_nil_of_scan_eq {p : Option Partial} {bytes : List UInt8}
    (h : scan p bytes = ([], none)) : p = none ∧ bytes = [] := by
  fun_induction scan p bytes with
  | case1 p =>
    cases h
    exact ⟨rfl, rfl⟩
  | case2 | case4 | case6 | case7 => cases h
  | case3 _ _ _ _ ih | case5 _ _ _ _ _ ih => cases (ih h).1

/-! ## Whole texts -/

/-- Characters are shown as they are. -/
theorem map_shown_char (s : List Char) : (s.map Piece.char).map Piece.shown = s := by
  rw [List.map_map]
  exact List.map_id s

/-- The pieces of an encoded text are its characters, whatever follows. -/
theorem pieces_encode_append (s : List Char) (rest : List UInt8) :
    pieces (encode s ++ rest) = s.map Piece.char ++ pieces rest := by
  unfold pieces
  rw [scan_encode_append]
  obtain ⟨out, last⟩ := scan none rest
  cases last with
  | none => rfl
  | some p => exact List.append_assoc _ _ _

/-- Encoded text in front of bytes is read as that text. -/
theorem decodeLossy_encode_append (s : List Char) (rest : List UInt8) :
    decodeLossy (encode s ++ rest) = s ++ decodeLossy rest := by
  unfold decodeLossy
  rw [pieces_encode_append, List.map_append, map_shown_char]

/-- A character in front of pieces is no part of a surrogate. -/
theorem withoutSurrogateStart_char (c : Char) (out : List Piece) :
    withoutSurrogateStart (.char c :: out) = .char c :: withoutSurrogateStart out := by
  match out with
  | [] => rfl
  | [_] => rfl
  | _ :: _ :: _ => rfl

/-- Nothing of an encoded text is held back, whatever follows. -/
theorem settledPieces_encode_append (s : List Char) (rest : List UInt8) :
    settledPieces (encode s ++ rest) = s.map Piece.char ++ settledPieces rest := by
  have hchars : ∀ out, withoutSurrogateStart (s.map Piece.char ++ out) =
      s.map Piece.char ++ withoutSurrogateStart out := by
    intro out
    induction s with
    | nil => rfl
    | cons c s ih => rw [List.map_cons, List.cons_append, withoutSurrogateStart_char, ih]; rfl
  unfold settledPieces
  rw [scan_encode_append]
  obtain ⟨out, last⟩ := scan none rest
  cases last with
  | none => exact hchars out
  | some p => rfl

/-- Encoded text in front of bytes that may go on is read as that text. -/
theorem decodeHeldBack_encode_append (s : List Char) (rest : List UInt8) :
    decodeHeldBack (encode s ++ rest) = s ++ decodeHeldBack rest := by
  unfold decodeHeldBack
  rw [settledPieces_encode_append, List.map_append, map_shown_char]

/-- The first two bytes of a surrogate are held back behind a letter. -/
example : decodeHeldBack [0x41, 0xED, 0xA0] = ['A'] := by decide

/-- Encoded text reads back. -/
theorem decodeLossy_encode (s : List Char) : decodeLossy (encode s) = s := by
  have h := decodeLossy_encode_append s []
  rw [List.append_nil] at h
  rw [h]
  exact List.append_nil s

/-- There is text if there are bytes. -/
theorem decodeLossy_eq_nil_iff {bytes : List UInt8} : decodeLossy bytes = [] ↔ bytes = [] := by
  constructor
  · intro h
    have hpieces : pieces bytes = [] := List.map_eq_nil_iff.mp h
    unfold pieces at hpieces
    split at hpieces
    · next hscan =>
      subst hpieces
      exact (eq_nil_of_scan_eq hscan).2
    · exact absurd hpieces (by simp)
  · rintro rfl
    rfl

/-- Characters have no fault among them. -/
theorem charsFrom_map_char (position : Nat) (s : List Char) :
    charsFrom position (s.map Piece.char) = .ok s := by
  induction s generalizing position with
  | nil => rfl
  | cons c s ih =>
    rw [List.map_cons, charsFrom, ih]
    rfl

end LintDaemon.Text.Utf8

namespace LintDaemon.Text.Incoming

/-- Text that arrives as a whole is read without a fault. -/
theorem decode_encode (s : List Char) : decode (Utf8.encode s) = .ok (s, none) := by
  have hsettled := Utf8.settledPieces_encode_append s []
  rw [List.append_nil] at hsettled
  have hopen : Utf8.openPieces (Utf8.encode s) = [] := by
    have hpieces := Utf8.pieces_encode_append s []
    rw [List.append_nil] at hpieces
    unfold Utf8.openPieces
    rw [hpieces, hsettled]
    exact List.drop_length
  unfold decode
  rw [hopen, hsettled, show Utf8.settledPieces [] = [] from rfl, List.append_nil,
    Utf8.charsFrom_map_char]
  rfl

/-- The first line of one that arrives as a whole is that line. -/
theorem firstLine_encode {s : List Char} (hs : IsOneLine s) :
    firstLine (Utf8.encode (s ++ ['\n'])) = .ok (s ++ ['\n']) := by
  have hlines : lines (s ++ ['\n']) false = [s ++ ['\n']] := hs.linesWithEnds
  unfold firstLine
  rw [decode_encode]
  simp only [bind, Except.bind, Option.isSome_none, hlines]
  rfl

end LintDaemon.Text.Incoming
