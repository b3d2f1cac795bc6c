import Mathlib
import TaskMachine.Proofs.Assembly.Lexing
import TaskMachine.Proofs.Assembly.Words
import TaskMachine.Instruction.Text
import TaskMachine.Proofs.Assembly.Labels

/-! # Canonical texts assemble back

The canonical text of an instruction is its words joined by single spaces
(`text_eq_intercalate`), every word plain, so the line tokenizes to exactly those words
(`tokenize_text`).  Numbers in it are written in decimal and the callee of a call by name,
and the assembler reads each back: the words of an instruction that fits in a word parse
to the instruction itself, whatever the resolver and the labels, and leave the resolver's
state alone (`parseLine_words`). -/

set_option autoImplicit false

namespace TaskMachine

def Condition.words : Condition → List String
  | .always => []
  | .onNone => ["ON", "NONE"]
  | .onTrue => ["ON", "TRUE"]
  | .onFalse => ["ON", "FALSE"]

def SendTarget.words : SendTarget → List String
  | .component => ["TO", "COMPONENT"]
  | .componentWithArguments => ["TO", "COMPONENT", "WITH", "ARGUMENTS"]
  | .document => ["TO", "DOCUMENT"]
  | .documentWithArguments => ["TO", "DOCUMENT", "WITH", "ARGUMENTS"]

namespace Intrinsic

theorem indexOf?_name (x : Intrinsic) : indexOf? x.name = some x.index := by
  cases x <;> rfl

theorem index_of_ofIndex? {k : Nat} {x : Intrinsic} (found : ofIndex? k = some x) : x.index = k := by
  unfold ofIndex? at found
  have hfound := List.find?_some found
  simpa using hfound

theorem ofIndex?_isSome {k : Nat} (atLeastOne : 1 ≤ k) (atMostCount : k ≤ count) : (ofIndex? k).isSome = true := by
  have hall : ∀ k < count + 1, 1 ≤ k → (ofIndex? k).isSome = true := by decide
  exact hall k (by omega) atLeastOne

theorem plainWord_name (x : Intrinsic) : Assembly.PlainWord x.name := by
  cases x <;> decide

end Intrinsic

namespace Instruction

def argumentsWords : Nat → List String
  | 0 => []
  | 1 => ["WITH", "1", "ARGUMENT"]
  | n => ["WITH", Decimal.natText n, "ARGUMENTS"]

def callee (i : Nat) : String :=
  match Intrinsic.ofIndex? i with
  | some intrinsic => intrinsic.name
  | none => Decimal.natText i

def words : Instruction → List String
  | .skip => ["SKIP", "INSTRUCTION"]
  | .jump a c => ["JUMP", "TO", Decimal.natText a] ++ c.words
  | .push s n => ["PUSH", s.keyword, Decimal.natText n]
  | .pull t => ["PULL", t.keyword]
  | .load s n => ["LOAD", s.keyword, Decimal.natText n]
  | .save s n => ["SAVE", s.keyword, Decimal.natText n]
  | .drop s n => ["DROP", s.keyword, Decimal.natText n]
  | .call i n => ["CALL", callee i] ++ argumentsWords n
  | .send m t => ["SEND", Decimal.natText m] ++ t.words

theorem text_eq_intercalate (i : Instruction) : i.text = " ".intercalate i.words := by
  apply String.toList_inj.mp
  cases i with
  | skip => decide
  | jump a c => cases c <;> simp [text, words, Condition.suffix, Condition.words]
  | push s n | load s n | save s n | drop s n =>
    simp [text, words]
  | pull t => simp [text, words]
  | call k n =>
    have htext : (call k n).text = "CALL " ++ callee k ++ argumentsSuffix n := rfl
    rw [htext]
    rcases n with _ | _ | n <;> simp [words, argumentsSuffix, argumentsWords]
  | send m t => cases t <;> simp [text, words, SendTarget.suffix, SendTarget.words]

theorem plainWord_callee (k : Nat) : Assembly.PlainWord (callee k) := by
  unfold callee
  split
  · exact Intrinsic.plainWord_name _
  · exact Assembly.plainWord_natText k

theorem plainWord_of_mem_argumentsWords {n : Nat} {w : String} (member : w ∈ argumentsWords n) :
    Assembly.PlainWord w := by
  rcases n with _ | _ | n
  · simp [argumentsWords] at member
  · revert w
    decide
  · have hwords : argumentsWords (n + 2) = ["WITH", Decimal.natText (n + 2), "ARGUMENTS"] := rfl
    simp only [hwords, List.mem_cons, List.not_mem_nil, or_false] at member
    rcases member with rfl | rfl | rfl
    · decide
    · exact Assembly.plainWord_natText _
    · decide

theorem plainWord_of_mem_words {i : Instruction} {w : String} (member : w ∈ i.words) :
    Assembly.PlainWord w := by
  have hnum := Assembly.plainWord_natText
  cases i with
  | skip => revert w; decide
  | jump a c =>
    simp only [words, List.cons_append, List.nil_append, List.mem_cons] at member
    rcases member with rfl | rfl | rfl | member
    · decide
    · decide
    · exact hnum a
    · revert w; cases c <;> decide
  | push s n | load s n | save s n | drop s n =>
    simp only [words, List.mem_cons, List.not_mem_nil, or_false] at member
    rcases member with rfl | rfl | rfl
    · decide
    · cases s <;> decide
    · exact hnum n
  | pull t =>
    simp only [words, List.mem_cons, List.not_mem_nil, or_false] at member
    rcases member with rfl | rfl
    · decide
    · cases t <;> decide
  | call k n =>
    simp only [words, List.mem_append, List.mem_cons, List.not_mem_nil, or_false] at member
    rcases member with (rfl | rfl) | member
    · decide
    · exact plainWord_callee k
    · exact plainWord_of_mem_argumentsWords member
  | send m t =>
    simp only [words, List.cons_append, List.mem_cons] at member
    rcases member with rfl | rfl | member
    · decide
    · exact hnum m
    · revert w; cases t <;> decide

theorem tokenize_text (i : Instruction) : Assembly.tokenize i.text = i.words := by
  rw [text_eq_intercalate]
  exact Assembly.tokenize_intercalate fun _ => plainWord_of_mem_words

theorem two_le_length_words (i : Instruction) : 2 ≤ i.words.length := by
  cases i <;> simp [words]

theorem text_line (i : Instruction) :
    i.text.toList ≠ [] ∧ '\n' ∉ i.text.toList ∧ '\r' ∉ i.text.toList := by
  have hchars : ∀ c ∈ i.text.toList, c = ' ' ∨ Assembly.plainChar c = true := by
    intro c hc
    rw [text_eq_intercalate, String.toList_intercalate] at hc
    rcases Assembly.mem_intercalate_space hc with h | ⟨l, hl, hcl⟩
    · exact .inl h
    · obtain ⟨w, hw, rfl⟩ := List.mem_map.mp hl
      exact .inr ((plainWord_of_mem_words hw).2 c hcl)
  refine ⟨fun hnil => ?_, fun hn => ?_, fun hr => ?_⟩
  · -- an empty line has no tokens, and a canonical text has at least two
    have htokens := tokenize_text i
    rw [Assembly.tokenize, hnil] at htokens
    have := two_le_length_words i
    rw [← htokens] at this
    simp [Assembly.stripComment, Assembly.stripCommentFrom, Text.trimBlanks, Text.dropBlanks,
      Assembly.tokenChars_of_dropBlanks_nil (show Text.dropBlanks [] = [] from rfl)] at this
  · rcases hchars _ hn with h | h
    · exact absurd h (by decide)
    · exact absurd h (by decide)
  · rcases hchars _ hr with h | h
    · exact absurd h (by decide)
    · exact absurd h (by decide)

end Instruction

namespace Assembly

theorem classify_of_two_le {tokens : List String} (twoTokens : 2 ≤ tokens.length) :
    classify tokens = .instruction tokens := by
  match tokens, twoTokens with
  | _ :: _ :: _, _ => rfl

theorem readLine_words_intercalate {ws : List String} (words : ∀ w ∈ ws, WordChars w.toList) :
    readLine (" ".intercalate ws) = classify ws := by
  rw [readLine, tokenize_words_intercalate words]

theorem readLine_intercalate {ws : List String} (plain : ∀ w ∈ ws, PlainWord w) :
    readLine (" ".intercalate ws) = classify ws :=
  readLine_words_intercalate fun w hw => (plain w hw).wordChars

theorem readLine_words {line : String} {ws : List String} (joined : " ".intercalate ws = line)
    (words : ∀ w ∈ ws, WordChars w.toList) (twoWords : 2 ≤ ws.length) :
    readLine line = .instruction ws := by
  rw [← joined, readLine_words_intercalate words, classify_of_two_le twoWords]

theorem readLine_text (i : Instruction) : readLine i.text = .instruction i.words := by
  rw [readLine, Instruction.tokenize_text]
  exact classify_of_two_le (Instruction.two_le_length_words i)

section Operands

variable {σ β : Type} (line : Nat) {n : Nat}

theorem number_natText (inRange : 1 ≤ n ∧ n ≤ maxOperand) :
    (number line (Decimal.natText n) : Assembling σ Nat) = pure n := by
  simp [number, unsignedValue?_natText, inRange.1, inRange.2]

theorem address_natText_bind (labels : Labels) (inRange : 1 ≤ n ∧ n ≤ maxOperand)
    (f : Nat → Assembling σ β) : address labels line (Decimal.natText n) >>= f = f n := by
  simp only [address, startsWithDigit_natText, if_true, number_natText line inRange]
  rfl

theorem index_natText_bind (resolve : σ → Option Nat × σ) (inRange : 1 ≤ n ∧ n ≤ maxOperand)
    (f : Nat → Assembling σ β) : index line (Decimal.natText n) resolve >>= f = f n := by
  simp only [index, startsWithDigit_natText, if_true, number_natText line inRange]
  rfl

theorem literalIndex_natText_bind (r : Resolver σ) (inRange : 1 ≤ n ∧ n ≤ maxOperand)
    (f : Nat → Assembling σ β) : literalIndex r line (Decimal.natText n) >>= f = f n :=
  index_natText_bind line _ inRange f

theorem callOf_callee {k : Nat} (inRange : 1 ≤ k ∧ k ≤ Intrinsic.count) {count : String}
    (countRead : unsignedValue? count = some n) (atMostThree : n ≤ 3) :
    (callOf line (Instruction.callee k) count : Assembling σ Instruction) = pure (.call k n) := by
  obtain ⟨x, hx⟩ := Option.isSome_iff_exists.mp (Intrinsic.ofIndex?_isSome inRange.1 inRange.2)
  have hname : Instruction.callee k = x.name := by simp [Instruction.callee, hx]
  simp [callOf, hname, Intrinsic.indexOf?_name, Intrinsic.index_of_ofIndex? hx, countRead, atMostThree]

end Operands

theorem parseLine_words {σ : Type} (r : Resolver σ) (labels : Labels) (line : Nat)
    {i : Instruction} (fits : i.Fits) : parseLine r labels line i.words = pure i := by
  cases i with
  | skip => rfl
  | pull t => cases t <;> rfl
  | jump a c => cases c <;> exact address_natText_bind line labels fits _
  | push s n =>
    cases s
    · exact address_natText_bind line labels fits _
    · exact literalIndex_natText_bind line r fits _
    · exact index_natText_bind line _ fits _
    · exact index_natText_bind line _ fits _
  | load s n | save s n | drop s n => cases s <;> exact index_natText_bind line _ fits _
  | call k n =>
    obtain ⟨hk₁, hk₂, hn⟩ := fits
    rcases n with _ | _ | _ | _ | n
    · exact callOf_callee line ⟨hk₁, hk₂⟩ (show unsignedValue? "0" = some 0 by decide) (by decide)
    · exact callOf_callee line ⟨hk₁, hk₂⟩ (show unsignedValue? "1" = some 1 by decide) (by decide)
    · exact callOf_callee line ⟨hk₁, hk₂⟩ (unsignedValue?_natText 2) (by decide)
    · exact callOf_callee line ⟨hk₁, hk₂⟩ (unsignedValue?_natText 3) (by decide)
    · omega
  | send m t => cases t <;> exact index_natText_bind line _ fits _

theorem mapM_eq_pure {σ α β : Type} {f : α → Assembling σ β} :
    ∀ {xs : List α} {ys : List β}, List.Forall₂ (fun x y => f x = pure y) xs ys →
      xs.mapM f = pure ys
  | _, _, .nil => rfl
  | _, _, .cons hxy hrest => by
    simp only [List.mapM_cons, hxy, mapM_eq_pure hrest, pure_bind]

theorem assembleWith_of_collect {σ : Type} (r : Resolver σ) {source : String} (start : σ)
    {labels : Labels} {lines : List (Nat × List String)}
    (collected : collectLines (sourceLines source) 1 [] [] = .ok (labels, lines)) :
    assembleWith r source start = (lines.mapM fun l =>
      (do return (← parseLine r labels l.1 l.2).encode : Assembling σ Word)).run start := by
  simp only [assembleWith, collected]
  rfl

theorem assembleWith_of_lines {σ : Type} {r : Resolver σ} {source : String} (start : σ)
    {labels : Labels} {lines : List (Nat × List String)} {ws : List Word}
    (collected : collectLines (sourceLines source) 1 [] [] = .ok (labels, lines))
    (encoded : List.Forall₂ (fun (l : Nat × List String) w =>
      (do return (← parseLine r labels l.1 l.2).encode : Assembling σ Word) = pure w) lines ws) :
    assembleWith r source start = .ok (ws, start) := by
  rw [assembleWith_of_collect r start collected, mapM_eq_pure encoded]
  rfl

theorem assembleWith_of_tokens {σ : Type} {r : Resolver σ} {source : String} (start : σ)
    {labels : Labels} {lines : List (Nat × List String)} (wordOf : List String → Word)
    (collected : collectLines (sourceLines source) 1 [] [] = .ok (labels, lines))
    (encoded : ∀ tokens ∈ instructionTokens (sourceLines source), ∀ line,
      (do return (← parseLine r labels line tokens).encode : Assembling σ Word) =
        pure (wordOf tokens)) :
    assembleWith r source start =
      .ok ((instructionTokens (sourceLines source)).map wordOf, start) := by
  have htokens : lines.map Prod.snd = instructionTokens (sourceLines source) := by
    simpa using collectLines_tokens collected
  rw [← htokens, List.map_map]
  refine assembleWith_of_lines start collected
    (List.forall₂_map_right_iff.mpr (List.forall₂_same.mpr fun l hl => ?_))
  exact encoded l.2 (htokens ▸ List.mem_map_of_mem hl) l.1

theorem assemble_texts {is : List Instruction} (fits : ∀ i ∈ is, i.Fits) :
    assemble ("\n".intercalate (is.map Instruction.text)) = .ok (is.map Instruction.encode) := by
  have hlines : sourceLines ("\n".intercalate (is.map Instruction.text)) =
      is.map Instruction.text := by
    apply sourceLines_intercalate
    intro l hl
    obtain ⟨i, -, rfl⟩ := List.mem_map.mp hl
    exact Instruction.text_line i
  have hnames : labelNames (is.map Instruction.text) = [] := by
    simp only [labelNames, List.filterMap_map, Function.comp_def, readLine_text]
    simp [SourceLine.label?]
  obtain ⟨labels, lines, hcollect⟩ : ∃ labels lines,
      collectLines (is.map Instruction.text) 1 [] [] = .ok (labels, lines) :=
    collectLines_ok 1 [] (hnames ▸ List.nodup_nil) (by simp [hnames])
  have htokens : lines.map Prod.snd = is.map Instruction.words := by
    rw [collectLines_tokens hcollect]
    simp only [instructionTokens, List.filterMap_map, Function.comp_def, readLine_text]
    simp [SourceLine.tokens?]
  have hparse : List.Forall₂ (fun (l : Nat × List String) w =>
      (do return (← parseLine Resolver.numeric labels l.1 l.2).encode : Assembling Unit Word) =
        pure w) lines (is.map Instruction.encode) := by
    have hpairs : List.Forall₂ (fun (l : Nat × List String) i => l.2 = i.words ∧ i.Fits)
        lines is := by
      have hsnd : List.Forall₂ (fun tokens i => tokens = i.words ∧ i.Fits)
          (lines.map Prod.snd) is := by
        rw [htokens, List.forall₂_map_left_iff]
        exact List.forall₂_same.mpr fun i hi => ⟨rfl, fits i hi⟩
      exact List.forall₂_map_left_iff.mp hsnd
    refine List.forall₂_map_right_iff.mpr (hpairs.imp fun {l i} hli => ?_)
    rw [hli.1, parseLine_words _ _ _ hli.2]
    rfl
  rw [← hlines] at hcollect
  rw [assemble, assembleWith_of_lines () hcollect hparse]
  rfl

end Assembly

end TaskMachine
