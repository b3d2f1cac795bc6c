import Mathlib
import TaskMachine.Assembly.Assemble

/-! # Joined words lex as themselves

The assembler reads text through three layers before it parses anything: `sourceLines`
splits it at line feeds, `stripComment` cuts each line at its comment, and `tokenChars`
splits what is left at blanks.  Each layer undoes a join.  Lines without line breaks,
joined by line feeds, come back from `sourceLines` as they were (`sourceLines_intercalate`),
and words joined by single spaces come back from `tokenize` as they were
(`tokenize_words_intercalate`).  A word (`WordChars`) is either plain (`PlainWord`: non-empty,
without blanks, backquotes or dashes) or backquoted: text without backquotes between two of
them, in which neither blanks nor dashes end anything.

Decimal numerals are plain words, start with a digit, and `unsignedValue?` reads them back
as their value (`unsignedValue?_natText`). -/

set_option autoImplicit false

namespace TaskMachine.Assembly

/-- A character a plain word may hold: neither a blank, a backquote nor a dash. -/
def plainChar (c : Char) : Bool :=
  !Text.isBlank c && c != '`' && c != '-'

/-- A plain word: non-empty and of plain characters, so one token that opens no comment. -/
def PlainWord (w : String) : Prop :=
  w.toList ≠ [] ∧ ∀ c ∈ w.toList, plainChar c = true

-- decided through `List.all`, so that the instance does not depend on which instances for
-- bounded quantifiers are in scope
instance (w : String) : Decidable (PlainWord w) :=
  decidable_of_iff ((!w.toList.isEmpty && w.toList.all plainChar) = true) (by
    simp [PlainWord, List.all_eq_true])

theorem not_blank_of_plainChar {c : Char} (plain : plainChar c = true) : Text.isBlank c = false := by
  simp only [plainChar, Bool.and_eq_true, Bool.not_eq_eq_eq_not, Bool.not_true] at plain
  exact plain.1.1

theorem ne_backquote_of_plainChar {c : Char} (plain : plainChar c = true) : c ≠ '`' := by
  simp only [plainChar, Bool.and_eq_true, bne_iff_ne] at plain
  exact plain.1.2

theorem ne_dash_of_plainChar {c : Char} (plain : plainChar c = true) : c ≠ '-' := by
  simp only [plainChar, Bool.and_eq_true, bne_iff_ne] at plain
  exact plain.2

/-- The characters of a word that lexes as one token: a plain word, or characters other than
backquotes between two backquotes (blanks and dashes inside quotes belong to the word). -/
inductive WordChars : List Char → Prop
  | plain {w : List Char} : w ≠ [] → (∀ c ∈ w, plainChar c = true) → WordChars w
  | quoted {inner : List Char} : '`' ∉ inner → WordChars ('`' :: (inner ++ ['`']))

theorem wordChars_iff (w : List Char) : WordChars w ↔
    (w ≠ [] ∧ ∀ c ∈ w, plainChar c = true) ∨
      (w.head? = some '`' ∧ 2 ≤ w.length ∧ w.getLast? = some '`' ∧
        '`' ∉ (w.drop 1).dropLast) := by
  constructor
  · intro h
    cases h with
    | plain hne hplain => exact .inl ⟨hne, hplain⟩
    | quoted hinner =>
      exact .inr ⟨rfl, by simp, by rw [← List.cons_append, List.getLast?_concat],
        by simpa using hinner⟩
  · rintro (⟨hne, hplain⟩ | ⟨hhead, hlen, hlast, hinner⟩)
    · exact .plain hne hplain
    · have hw : w ≠ [] := List.ne_nil_of_length_pos (by omega)
      obtain ⟨c, rest, rfl⟩ := List.exists_cons_of_ne_nil hw
      obtain rfl : c = '`' := by simpa using hhead
      have hrest : rest ≠ [] := List.ne_nil_of_length_pos (by simp at hlen; omega)
      have hback : rest.getLast hrest = '`' := by
        simpa [List.getLast?_cons, List.getLast?_eq_some_getLast hrest] using hlast
      rw [← List.dropLast_concat_getLast hrest, hback]
      exact .quoted (by simpa using hinner)

instance (w : List Char) : Decidable (WordChars w) :=
  decidable_of_iff ((!w.isEmpty && w.all plainChar) || (w.head? == some '`' &&
      decide (2 ≤ w.length) && w.getLast? == some '`' &&
        !(w.drop 1).dropLast.contains '`') = true)
    (by simp [wordChars_iff, List.all_eq_true, and_assoc])

theorem PlainWord.wordChars {w : String} (plain : PlainWord w) : WordChars w.toList :=
  .plain plain.1 plain.2

/-! ## Lines -/

theorem sourceLines_intercalate {ls : List String}
    (lines : ∀ l ∈ ls, l.toList ≠ [] ∧ '\n' ∉ l.toList ∧ '\r' ∉ l.toList) :
    sourceLines ("\n".intercalate ls) = ls := by
  by_cases hnil : ls = []
  · subst hnil
    simp [sourceLines]
  obtain ⟨front, last, rfl⟩ : ∃ front last, ls = front ++ [last] :=
    ⟨ls.dropLast, ls.getLast hnil, (List.dropLast_concat_getLast hnil).symm⟩
  have hsplit : ("\n".intercalate (front ++ [last])).toList.splitOn '\n' =
      (front ++ [last]).map String.toList := by
    rw [String.toList_intercalate]
    apply List.splitOn_intercalate
    · intro l hl
      obtain ⟨s, hs, rfl⟩ := List.mem_map.mp hl
      exact (lines s hs).2.1
    · simp
  have hlast := lines last (by simp)
  simp only [sourceLines]
  rw [hsplit, List.map_append, List.map_singleton, List.dropLast_concat, List.getLast?_concat,
    Option.getD_some, if_neg (by simpa using hlast.1), List.map_map, String.ofList_toList]
  congr 1
  refine (List.map_congr_left fun p hp => ?_).trans (List.map_id' front)
  have hcr := (lines p (by simp [hp])).2.2
  simp only [Function.comp_apply]
  split
  · next rest heq =>
    have : '\r' ∈ p.toList.reverse := by rw [heq]; simp
    exact absurd (List.mem_reverse.mp this) hcr
  · exact String.ofList_toList
theorem mem_intercalate_space {ls : List (List Char)} {c : Char}
    (member : c ∈ [' '].intercalate ls) : c = ' ' ∨ ∃ l ∈ ls, c ∈ l := by
  induction ls with
  | nil => simp at member
  | cons l rest ih =>
    cases rest with
    | nil => exact .inr ⟨l, List.mem_singleton_self l, by simpa using member⟩
    | cons l' more =>
      rw [List.intercalate_cons_cons] at member
      rcases List.mem_append.mp member with member | member
      · rcases List.mem_append.mp member with member | member
        · exact .inr ⟨l, List.mem_cons_self .., member⟩
        · exact .inl (List.mem_singleton.mp member)
      · rcases ih member with member | ⟨m, hm, hc⟩
        · exact .inl member
        · exact .inr ⟨m, List.mem_cons_of_mem _ hm, hc⟩

/-! ## Comments -/

theorem stripCommentFrom_cons {c : Char} (quoted : Bool) (cs : List Char) (notQuote : c ≠ '`')
    (notDash : c ≠ '-') : stripCommentFrom quoted (c :: cs) = c :: stripCommentFrom quoted cs := by
  rw [stripCommentFrom.eq_def]
  split <;> simp_all

theorem stripCommentFrom_append (quoted : Bool) {a : List Char} (b : List Char)
    (neither : ∀ c ∈ a, c ≠ '`' ∧ c ≠ '-') :
    stripCommentFrom quoted (a ++ b) = a ++ stripCommentFrom quoted b := by
  induction a with
  | nil => rfl
  | cons c rest ih =>
    have hc := neither c (List.mem_cons_self ..)
    rw [List.cons_append, List.cons_append, stripCommentFrom_cons quoted _ hc.1 hc.2,
      ih fun d hd => neither d (List.mem_cons_of_mem _ hd)]

theorem stripCommentFrom_backquote (quoted : Bool) (cs : List Char) :
    stripCommentFrom quoted ('`' :: cs) = '`' :: stripCommentFrom (!quoted) cs := by
  rw [stripCommentFrom]

theorem stripCommentFrom_quoted_cons {c : Char} (cs : List Char) (notQuote : c ≠ '`') :
    stripCommentFrom true (c :: cs) = c :: stripCommentFrom true cs := by
  rw [stripCommentFrom.eq_def]
  split <;> simp_all

theorem stripCommentFrom_quoted_append {inner : List Char} (b : List Char) (unquoted : '`' ∉ inner) :
    stripCommentFrom true (inner ++ '`' :: b) = inner ++ '`' :: stripCommentFrom false b := by
  induction inner with
  | nil => exact stripCommentFrom_backquote true b
  | cons c rest ih =>
    have hc : c ≠ '`' := fun he => unquoted (he ▸ List.mem_cons_self ..)
    rw [List.cons_append, stripCommentFrom_quoted_cons _ hc,
      ih fun hm => unquoted (List.mem_cons_of_mem _ hm), List.cons_append]

theorem stripCommentFrom_word_append {w : List Char} (word : WordChars w) (b : List Char) :
    stripCommentFrom false (w ++ b) = w ++ stripCommentFrom false b := by
  cases word with
  | plain _ hplain =>
    exact stripCommentFrom_append false b fun c hc =>
      ⟨ne_backquote_of_plainChar (hplain c hc), ne_dash_of_plainChar (hplain c hc)⟩
  | quoted hinner =>
    rw [List.cons_append, stripCommentFrom_backquote, Bool.not_false, List.append_assoc,
      List.singleton_append, stripCommentFrom_quoted_append b hinner]
    simp

theorem stripComment_intercalate {ws : List (List Char)} (words : ∀ w ∈ ws, WordChars w) :
    stripComment ([' '].intercalate ws) = [' '].intercalate ws := by
  induction ws with
  | nil => rfl
  | cons w rest ih =>
    have hw := words w (List.mem_cons_self ..)
    have ih := ih fun v hv => words v (List.mem_cons_of_mem _ hv)
    cases rest with
    | nil =>
      rw [List.intercalate_singleton, stripComment, ← List.append_nil w,
        stripCommentFrom_word_append hw]
      rfl
    | cons v more =>
      rw [List.intercalate_cons_cons, List.append_assoc, List.singleton_append, stripComment,
        stripCommentFrom_word_append hw, stripCommentFrom_cons false _ (by decide) (by decide)]
      rw [stripComment] at ih
      rw [ih]

/-! ## Tokens -/

theorem tokenChars_of_dropBlanks_nil {cs : List Char} (blank : Text.dropBlanks cs = []) :
    tokenChars cs = [] := by
  rw [tokenChars]
  split <;> simp_all

theorem tokenChars_of_dropBlanks_cons {cs rest : List Char} {c : Char}
    (dropped : Text.dropBlanks cs = c :: rest) :
    tokenChars cs = (splitToken c rest).1 :: tokenChars (splitToken c rest).2 := by
  rw [tokenChars]
  split <;> simp_all

theorem tokenChars_blank_cons {b : Char} (cs : List Char) (blank : Text.isBlank b = true) :
    tokenChars (b :: cs) = tokenChars cs := by
  have hdrop : Text.dropBlanks (b :: cs) = Text.dropBlanks cs := by
    simp [Text.dropBlanks, blank]
  rcases hcs : Text.dropBlanks cs with _ | ⟨c, rest⟩
  · rw [tokenChars_of_dropBlanks_nil hcs, tokenChars_of_dropBlanks_nil (hdrop.trans hcs)]
  · rw [tokenChars_of_dropBlanks_cons hcs, tokenChars_of_dropBlanks_cons (hdrop.trans hcs)]

theorem plainPart_append {w : List Char} (rest : List Char)
    (noBlank : ∀ c ∈ w, Text.isBlank c = false) (restBlank : ∀ c ∈ rest.head?, Text.isBlank c = true) :
    plainPart (w ++ rest) = (w, rest) := by
  induction w with
  | nil =>
    cases rest with
    | nil => rfl
    | cons b more => simp_all [plainPart]
  | cons c more ih =>
    have hc := noBlank c (List.mem_cons_self ..)
    rw [List.cons_append, plainPart, if_neg (by simp [hc]),
      ih fun d hd => noBlank d (List.mem_cons_of_mem _ hd)]

theorem tokenChars_plain_append {w : List Char} (rest : List Char) (nonempty : w ≠ [])
    (plain : ∀ c ∈ w, plainChar c = true) (restBlank : ∀ c ∈ rest.head?, Text.isBlank c = true) :
    tokenChars (w ++ rest) = w :: tokenChars rest := by
  obtain ⟨c, cs, rfl⟩ := List.exists_cons_of_ne_nil nonempty
  have hc := plain c (List.mem_cons_self ..)
  have hdrop : Text.dropBlanks ((c :: cs) ++ rest) = c :: (cs ++ rest) := by
    simp [Text.dropBlanks, not_blank_of_plainChar hc]
  have hpart : plainPart (cs ++ rest) = (cs, rest) :=
    plainPart_append rest (fun d hd => not_blank_of_plainChar (plain d (List.mem_cons_of_mem _ hd)))
      restBlank
  rw [tokenChars_of_dropBlanks_cons hdrop]
  simp [splitToken, ne_backquote_of_plainChar hc, hpart]

theorem quotedPart_append {inner : List Char} (rest : List Char) (unquoted : '`' ∉ inner) :
    quotedPart (inner ++ '`' :: rest) = (inner ++ ['`'], rest) := by
  induction inner with
  | nil => rfl
  | cons c more ih =>
    have hc : c ≠ '`' := fun he => unquoted (he ▸ List.mem_cons_self ..)
    rw [List.cons_append, quotedPart.eq_def]
    split
    · simp_all
    · next hne => simp_all
    · next c' rest' hne heq =>
      obtain ⟨rfl, rfl⟩ := List.cons.inj heq
      rw [ih fun hm => unquoted (List.mem_cons_of_mem _ hm)]
      rfl

theorem tokenChars_word_append {w : List Char} (rest : List Char) (word : WordChars w)
    (restBlank : ∀ c ∈ rest.head?, Text.isBlank c = true) :
    tokenChars (w ++ rest) = w :: tokenChars rest := by
  cases word with
  | plain hne hplain => exact tokenChars_plain_append rest hne hplain restBlank
  | quoted hinner =>
    rename_i inner
    have hdrop : Text.dropBlanks (('`' :: (inner ++ ['`'])) ++ rest) =
        '`' :: (inner ++ '`' :: rest) := by
      simp [Text.dropBlanks, show Text.isBlank '`' = false by decide]
    rw [tokenChars_of_dropBlanks_cons hdrop]
    simp [splitToken, quotedPart_append rest hinner]

theorem tokenChars_intercalate {ws : List (List Char)} (words : ∀ w ∈ ws, WordChars w) :
    tokenChars ([' '].intercalate ws) = ws := by
  induction ws with
  | nil => exact tokenChars_of_dropBlanks_nil rfl
  | cons w rest ih =>
    have hw := words w (List.mem_cons_self ..)
    have ih := ih fun v hv => words v (List.mem_cons_of_mem _ hv)
    cases rest with
    | nil =>
      have := tokenChars_word_append [] hw (by simp)
      simpa [tokenChars_of_dropBlanks_nil (show Text.dropBlanks [] = [] from rfl)] using this
    | cons v more =>
      rw [List.intercalate_cons_cons, List.append_assoc,
        tokenChars_word_append _ hw (by simp; decide), List.singleton_append,
        tokenChars_blank_cons _ (by decide), ih]

theorem dropBlanks_word_append {w : List Char} (word : WordChars w) (rest : List Char) :
    Text.dropBlanks (w ++ rest) = w ++ rest := by
  cases word with
  | plain hne hplain =>
    obtain ⟨c, cs, rfl⟩ := List.exists_cons_of_ne_nil hne
    simp [Text.dropBlanks, not_blank_of_plainChar (hplain c (List.mem_cons_self ..))]
  | quoted _ => simp [Text.dropBlanks, show Text.isBlank '`' = false by decide]

theorem WordChars.reverse {w : List Char} (word : WordChars w) : WordChars w.reverse := by
  cases word with
  | plain hne hplain =>
    exact .plain (by simpa using hne) fun c member => hplain c (List.mem_reverse.mp member)
  | quoted hinner =>
    rename_i inner
    have turned : ('`' :: (inner ++ ['`'])).reverse = '`' :: (inner.reverse ++ ['`']) := by simp
    rw [turned]
    exact .quoted (by simpa using hinner)

theorem intercalate_ends_in_word {ws : List (List Char)} (words : ∀ w ∈ ws, WordChars w)
    (nonempty : ws ≠ []) : ∃ init w, [' '].intercalate ws = init ++ w ∧ WordChars w := by
  induction ws with
  | nil => exact absurd rfl nonempty
  | cons w rest ih =>
    cases rest with
    | nil => exact ⟨[], w, by simp, words w (List.mem_cons_self ..)⟩
    | cons v more =>
      obtain ⟨init, last, joined, word⟩ :=
        ih (fun u member => words u (List.mem_cons_of_mem _ member)) (List.cons_ne_nil _ _)
      exact ⟨w ++ [' '] ++ init, last, by rw [List.intercalate_cons_cons, joined]; simp, word⟩

theorem trimBlanks_intercalate {ws : List (List Char)} (words : ∀ w ∈ ws, WordChars w) :
    Text.trimBlanks ([' '].intercalate ws) = [' '].intercalate ws := by
  cases ws with
  | nil => rfl
  | cons w more =>
    obtain ⟨init, last, back, word⟩ := intercalate_ends_in_word words (List.cons_ne_nil _ _)
    have front : Text.dropBlanks ([' '].intercalate (w :: more)) = [' '].intercalate (w :: more) := by
      cases more with
      | nil => simpa using dropBlanks_word_append (words w (List.mem_cons_self ..)) []
      | cons v rest =>
        rw [List.intercalate_cons_cons, List.append_assoc,
          dropBlanks_word_append (words w (List.mem_cons_self ..))]
    unfold Text.trimBlanks
    rw [front, back, List.reverse_append, dropBlanks_word_append word.reverse, ← List.reverse_append,
      List.reverse_reverse]

theorem tokenize_words_intercalate {ws : List String} (words : ∀ w ∈ ws, WordChars w.toList) :
    tokenize (" ".intercalate ws) = ws := by
  have hchars : (" ".intercalate ws).toList = [' '].intercalate (ws.map String.toList) := by
    simp
  have hwords : ∀ w ∈ ws.map String.toList, WordChars w := by
    intro w hw
    obtain ⟨s, hs, rfl⟩ := List.mem_map.mp hw
    exact words s hs
  rw [tokenize, hchars, stripComment_intercalate hwords, trimBlanks_intercalate hwords,
    tokenChars_intercalate hwords, List.map_map]
  simp

theorem tokenize_intercalate {ws : List String} (plain : ∀ w ∈ ws, PlainWord w) :
    tokenize (" ".intercalate ws) = ws :=
  tokenize_words_intercalate fun w hw => (plain w hw).wordChars

/-! ## Numerals -/

abbrev digitChar (d : Nat) : Char :=
  Char.ofNat (0x30 + d)

theorem toNat_digitChar {d : Nat} (digit : d < 10) : (digitChar d).toNat = 0x30 + d := by
  unfold digitChar Char.ofNat
  rw [dif_pos (by unfold Nat.isValidChar; omega)]
  simp [Char.ofNatAux, Char.toNat]
  omega

theorem digitChar_digit_plain :
    ∀ d < 10, (digitChar d).isDigit = true ∧ plainChar (digitChar d) = true := by
  decide

theorem mem_digitChars {n : Nat} {c : Char} (member : c ∈ Decimal.digitChars n) :
    ∃ d < 10, c = digitChar d := by
  fun_induction Decimal.digitChars n with
  | case1 n hn => exact ⟨n, hn, by simpa using member⟩
  | case2 n hn ih =>
    rcases List.mem_append.mp member with member | member
    · exact ih member
    · exact ⟨n % 10, Nat.mod_lt _ (by decide), by simpa using member⟩

theorem foldl_digitChars (n : Nat) :
    (Decimal.digitChars n).foldl (fun acc c => 10 * acc + (c.toNat - 0x30)) 0 = n := by
  fun_induction Decimal.digitChars n with
  | case1 n hn => simp [toNat_digitChar hn]
  | case2 n hn ih =>
    rw [List.foldl_append, ih]
    simp [toNat_digitChar (Nat.mod_lt n (show 0 < 10 by decide))]
    omega

theorem digitChars_ne_nil (n : Nat) : Decimal.digitChars n ≠ [] := by
  rw [Decimal.digitChars]
  split <;> simp

theorem unsignedValue?_natText (n : Nat) : unsignedValue? (Decimal.natText n) = some n := by
  have hdigits : ∀ c ∈ Decimal.digitChars n, c.isDigit = true := fun c hc => by
    obtain ⟨d, hd, rfl⟩ := mem_digitChars hc
    exact (digitChar_digit_plain d hd).1
  obtain ⟨c, cs, hcs⟩ := List.exists_cons_of_ne_nil (digitChars_ne_nil n)
  have hc : c ≠ '+' := fun hplus => by
    have := hdigits c (by rw [hcs]; exact List.mem_cons_self ..)
    rw [hplus] at this
    exact absurd this (by decide)
  simp only [unsignedValue?, Decimal.natText, String.toList_ofList, hcs]
  split
  · next rest heq => exact absurd (List.cons.inj heq).1 hc
  · rw [← hcs]
    simp [List.all_eq_true.mpr hdigits, digitChars_ne_nil, foldl_digitChars]

theorem startsWithDigit_natText (n : Nat) : startsWithDigit (Decimal.natText n) = true := by
  obtain ⟨c, cs, hcs⟩ := List.exists_cons_of_ne_nil (digitChars_ne_nil n)
  obtain ⟨d, hd, rfl⟩ := mem_digitChars (c := c) (by rw [hcs]; exact List.mem_cons_self ..)
  simp only [startsWithDigit, Decimal.natText, String.toList_ofList, hcs]
  exact (digitChar_digit_plain d hd).1

theorem plainWord_natText (n : Nat) : PlainWord (Decimal.natText n) := by
  refine ⟨by simpa [Decimal.natText] using digitChars_ne_nil n, fun c hc => ?_⟩
  obtain ⟨d, hd, rfl⟩ := mem_digitChars (by simpa [Decimal.natText] using hc)
  exact (digitChar_digit_plain d hd).2

end TaskMachine.Assembly
