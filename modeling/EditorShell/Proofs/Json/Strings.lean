import EditorShell.Json.Parser
import EditorShell.Json.Printer

/-!
# Strings read back

A written string has no bare quote inside, so a reader finds its end, and no control character, so
it stays on its line.  Every escape that is written stands for one character below U+0080: reading
a string never has to join the halves of a surrogate pair (`joinPieces?_map_piece`).
-/

namespace EditorShell.Json

/-- What a reader takes the written form of a character for. -/
def piece (c : Char) : Piece :=
  if c.toNat < 0x20 ∧ c ∉ ['\x08', '\x0C', '\n', '\r', '\t'] then .unit c.toNat else .char c

theorem hexValue?_hexDigit {digit : Nat} (hdigit : digit < 16) :
    hexValue? (hexDigit digit) = some digit := by
  have hall : ∀ d, d < 16 → hexValue? (hexDigit d) = some d := by decide
  exact hall digit hdigit

theorem hexUnit?_hexDigit {code : Nat} (hcode : code < 256) :
    hexUnit? '0' '0' (hexDigit (code / 16)) (hexDigit (code % 16)) = some code := by
  have hzero : hexValue? '0' = some 0 := rfl
  have hhigh := hexValue?_hexDigit (show code / 16 < 16 by omega)
  have hlow := hexValue?_hexDigit (show code % 16 < 16 by omega)
  simp only [hexUnit?, hzero, hhigh, hlow, Option.bind_eq_bind, Option.bind_some, Option.some_inj]
  omega

/-- A character is written as an escape with a letter, as an escape with its code, or as itself. -/
theorem escapeChar_cases (c : Char) :
    (∃ letter, escapeChar c = ['\\', letter] ∧ letter ≠ 'u' ∧ 0x20 ≤ letter.toNat ∧
        escaped? letter = some c ∧ piece c = .char c) ∨
      (escapeChar c = ['\\', 'u', '0', '0', hexDigit (c.toNat / 16), hexDigit (c.toNat % 16)] ∧
        c.toNat < 0x20 ∧ piece c = .unit c.toNat) ∨
      (escapeChar c = [c] ∧ 0x20 ≤ c.toNat ∧ c ≠ '"' ∧ c ≠ '\\' ∧ piece c = .char c) := by
  by_cases hletter : c ∈ ['"', '\\', '\x08', '\x0C', '\n', '\r', '\t']
  · left
    simp only [List.mem_cons, List.not_mem_nil, or_false] at hletter
    rcases hletter with rfl | rfl | rfl | rfl | rfl | rfl | rfl
    all_goals exact ⟨_, rfl, by decide, by decide, rfl, by decide⟩
  · right
    simp only [List.mem_cons, List.not_mem_nil, or_false, not_or] at hletter
    obtain ⟨hquote, hslash, hb, hf, hn, hr, ht⟩ := hletter
    have hcode : escapeChar c = if c.toNat < 0x20 then
        ['\\', 'u', '0', '0', hexDigit (c.toNat / 16), hexDigit (c.toNat % 16)] else [c] := by
      simp only [escapeChar, hquote, hslash, hb, hf, hn, hr, ht, if_false]
    have hpiece : piece c = if c.toNat < 0x20 then .unit c.toNat else .char c := by
      simp [piece, hb, hf, hn, hr, ht]
    rcases Nat.lt_or_ge c.toNat 0x20 with hlt | hge
    · rw [if_pos hlt] at hcode hpiece
      exact .inl ⟨hcode, hlt, hpiece⟩
    · rw [if_neg (by omega)] at hcode hpiece
      exact .inr ⟨hcode, hge, hquote, hslash, hpiece⟩

/-- The reader takes one written character at a time. -/
theorem readPieces?_escapeChar (c : Char) (rest : List Char) :
    readPieces? (escapeChar c ++ rest) =
      (readPieces? rest).map fun read => (piece c :: read.1, read.2) := by
  rcases escapeChar_cases c with ⟨letter, hesc, hu, -, hescaped, hpiece⟩ |
    ⟨hesc, hlt, hpiece⟩ | ⟨hesc, hge, hquote, hslash, hpiece⟩
  · rw [hesc, hpiece, List.cons_append, List.singleton_append, readPieces?, hescaped]
    · cases readPieces? rest <;> rfl
    · exact fun _ _ _ _ _ heq => absurd heq hu
  · rw [hesc, hpiece]
    simp only [List.cons_append, List.nil_append, readPieces?]
    rw [hexUnit?_hexDigit (by omega)]
    cases readPieces? rest <;> rfl
  · rw [hesc, hpiece, List.singleton_append, readPieces?, if_neg (by omega)]
    · cases readPieces? rest <;> rfl
    · exact hquote
    · exact fun _ _ _ _ _ heq => absurd heq hslash
    · exact fun _ _ heq => absurd heq hslash

theorem readPieces?_escaped (text rest : List Char) :
    readPieces? (text.flatMap escapeChar ++ '"' :: rest) = some (text.map piece, rest) := by
  induction text with
  | nil => simp [readPieces?]
  | cons c text ih =>
      rw [List.flatMap_cons, List.append_assoc, readPieces?_escapeChar, ih]
      rfl

/-- The pieces of a text are joined to the text. -/
theorem joinPieces?_map_piece (text : List Char) : joinPieces? (text.map piece) = some text := by
  induction text with
  | nil => rfl
  | cons c text ih =>
      rw [List.map_cons]
      by_cases hunit : c.toNat < 0x20 ∧ c ∉ ['\x08', '\x0C', '\n', '\r', '\t']
      · have hhigh : isHighHalf c.toNat = false := by simp [isHighHalf]; omega
        have hlow : isLowHalf c.toNat = false := by simp [isLowHalf]; omega
        rw [show piece c = .unit c.toNat from if_pos hunit]
        -- Whatever follows, a unit below the surrogates stands for itself.
        have hself : joinPieces? (.unit c.toNat :: text.map piece) =
            (joinPieces? (text.map piece)).map (Char.ofNat c.toNat :: ·) := by
          cases hrest : text.map piece with
          | nil => simp [joinPieces?, hhigh, hlow]
          | cons next more => cases next <;> simp [joinPieces?, hhigh, hlow]
        rw [hself, ih, Char.ofNat_toNat]
        rfl
      · rw [show piece c = .char c from if_neg hunit, joinPieces?, ih]
        rfl

theorem piecesText?_map_piece (text : String) :
    piecesText? (text.toList.map piece) = some text := by
  rw [piecesText?, joinPieces?_map_piece, Option.map_some, String.ofList_toList]

/-- A written string is read back, and nothing of the text behind it is taken. -/
theorem readPieces?_quote (text : String) (rest : List Char) :
    ∃ inner, quote text ++ rest = '"' :: inner ∧
      readPieces? inner = some (text.toList.map piece, rest) := by
  refine ⟨text.toList.flatMap escapeChar ++ '"' :: rest, ?_, readPieces?_escaped _ _⟩
  simp [quote]

/-- No character of a written string is a control character. -/
theorem le_toNat_of_mem_escapeChar {c d : Char} (hd : d ∈ escapeChar c) : 0x20 ≤ d.toNat := by
  have hdigit : ∀ digit, digit < 16 → 0x20 ≤ (hexDigit digit).toNat := by decide
  rcases escapeChar_cases c with ⟨letter, hesc, -, hge, -, -⟩ | ⟨hesc, hlt, -⟩ | ⟨hesc, hge, -⟩
  · rw [hesc] at hd
    simp only [List.mem_cons, List.not_mem_nil, or_false] at hd
    rcases hd with rfl | rfl
    · decide
    · exact hge
  · rw [hesc] at hd
    simp only [List.mem_cons, List.not_mem_nil, or_false] at hd
    rcases hd with rfl | rfl | rfl | rfl | rfl | rfl
    · decide
    · decide
    · decide
    · decide
    · exact hdigit _ (by omega)
    · exact hdigit _ (by omega)
  · rw [hesc, List.mem_singleton] at hd
    exact hd ▸ hge

theorem newline_not_mem_quote (text : String) : '\n' ∉ quote text := by
  intro hmem
  simp only [quote, List.mem_cons, List.mem_append, List.mem_flatMap, List.not_mem_nil,
    or_false] at hmem
  rcases hmem with hopen | ⟨c, -, hc⟩ | hclose
  · cases hopen
  · exact absurd (le_toNat_of_mem_escapeChar hc) (by decide)
  · cases hclose

end EditorShell.Json
