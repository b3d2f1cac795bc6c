import Mathlib
import TaskMachine.Compiled.Builder
import TaskMachine.Proofs.Assembly.Readback

/-! # Interned method tables

A method's tables are filled while its source is assembled: a variable or message name is
interned, a literal is interned by value equality, and constants and arguments are looked up
by position.  Every index the method's resolver answers names, in the tables it leaves, the
entry the operand spells (`MethodTables.Names`): the slot of that name, the first literal equal
to the value the operand denotes, the constant or parameter of that name.  That needs the
positions to fit in sixteen bits, where the resolver reports them: at most `2 ^ 16` constants
and fewer than `2 ^ 16` parameters.

Tables only ever grow at their ends (`MethodTables.Extends`), so an answer keeps naming the
same entry in the method's final tables, and no table holds an entry twice
(`MethodTables.Distinct`).  Together: every operand of a method built from source that is
written as a name indexes the entry it names (`buildMethod_operands`). -/

set_option autoImplicit false

namespace TaskMachine

/-- A list of values in which no value equals an earlier one.  A `NaN` equals nothing, so it
may stand more than once. -/
def Value.Distinct (vs : List Value) : Prop :=
  vs.Pairwise fun a b => a.equal b = false

theorem getElem?_of_prefix {α : Type} {xs ys : List α} {i : Nat} {a : α} (leading : xs <+: ys)
    (found : xs[i]? = some a) : ys[i]? = some a := by
  obtain ⟨zs, rfl⟩ := leading
  rw [List.getElem?_append_left (List.getElem?_eq_some_iff.mp found).1, found]

namespace MethodTables

/-! ## Interning a name or a value -/

theorem intern_entry (table : List Symbol) (s : Symbol) :
    (intern table s).2[(intern table s).1 - 1]? = some s := by
  unfold intern
  split
  · next i hi =>
    obtain ⟨hlt, heq, -⟩ := List.idxOf?_eq_some_iff.mp hi
    rw [Nat.add_sub_cancel, List.getElem?_eq_getElem hlt, heq]
  · simp

theorem intern_prefix (table : List Symbol) (s : Symbol) : table <+: (intern table s).2 := by
  unfold intern
  split
  · exact List.prefix_refl _
  · exact List.prefix_append _ _

theorem intern_length_le (table : List Symbol) (s : Symbol) :
    (intern table s).2.length ≤ table.length + 1 := by
  unfold intern
  split
  · exact Nat.le_succ _
  · simp

theorem intern_nodup {table : List Symbol} (nodup : table.Nodup) (s : Symbol) :
    (intern table s).2.Nodup := by
  unfold intern
  split
  · exact nodup
  · next hi =>
    have hnew : s ∉ table := List.idxOf?_eq_none_iff.mp hi
    rw [List.nodup_append]
    refine ⟨nodup, List.pairwise_singleton _ s, fun a ha b hb => ?_⟩
    rw [List.mem_singleton.mp hb]
    exact fun heq => hnew (heq ▸ ha)

theorem internValue_prefix (table : List Value) (v : Value) :
    table <+: (internValue table v).2 := by
  unfold internValue
  split
  · exact List.prefix_refl _
  · exact List.prefix_append _ _

theorem internValue_entry (table : List Value) (v : Value) :
    ∃ u, (internValue table v).2[(internValue table v).1 - 1]? = some u ∧
      (u = v ∨ u.equal v = true) ∧
      ∀ j < (internValue table v).1 - 1, ∀ u', (internValue table v).2[j]? = some u' →
        u'.equal v = false := by
  unfold internValue
  split
  · next i hi =>
    obtain ⟨hlt, hequal, hfirst⟩ := List.findIdx?_eq_some_iff_getElem.mp hi
    refine ⟨table[i], by simp, .inr hequal, fun j hj u' hu' => ?_⟩
    obtain ⟨hj', rfl⟩ := List.getElem?_eq_some_iff.mp hu'
    simpa using hfirst j (by omega)
  · next hi =>
    have hnone := List.findIdx?_eq_none_iff.mp hi
    refine ⟨v, by simp, .inl rfl, fun j hj u' hu' => ?_⟩
    dsimp only at hj hu'
    rw [Nat.add_sub_cancel] at hj
    rw [List.getElem?_append_left hj] at hu'
    exact hnone u' (List.mem_of_getElem? hu')

theorem internValue_distinct {table : List Value} (distinct : Value.Distinct table) (v : Value) :
    Value.Distinct (internValue table v).2 := by
  unfold internValue
  split
  · exact distinct
  · next hi =>
    have hnone := List.findIdx?_eq_none_iff.mp hi
    refine List.pairwise_append.mpr ⟨distinct, List.pairwise_singleton _ _, fun a ha b hb => ?_⟩
    rw [List.mem_singleton.mp hb]
    exact hnone a ha

/-! ## Tables that only grow -/

/-- Tables `t'` extend `t` when they hold the same parameters and every other table of `t`
is the start of the one in `t'`. -/
structure Extends (t t' : MethodTables) : Prop where
  parameters : t'.parameters = t.parameters
  variableNames : t.variableNames <+: t'.variableNames
  literals : t.literals <+: t'.literals
  messages : t.messages <+: t'.messages

theorem Extends.refl (t : MethodTables) : Extends t t :=
  ⟨rfl, List.prefix_refl _, List.prefix_refl _, List.prefix_refl _⟩

theorem Extends.trans {t₁ t₂ t₃ : MethodTables} (first : Extends t₁ t₂)
    (second : Extends t₂ t₃) :
    Extends t₁ t₃ :=
  ⟨second.parameters.trans first.parameters, first.variableNames.trans second.variableNames,
    first.literals.trans second.literals, first.messages.trans second.messages⟩

/-- No table holds an entry twice: parameters, variables and messages are distinct names, and
no literal equals an earlier one. -/
structure Distinct (t : MethodTables) : Prop where
  parameters : t.parameters.Nodup
  variableNames : t.variableNames.Nodup
  literals : Value.Distinct t.literals
  messages : t.messages.Nodup

theorem distinct_empty : Distinct ⟨[], [], [], []⟩ :=
  ⟨.nil, .nil, .nil, .nil⟩

theorem foldl_addParameter (ps : List Symbol) {t : MethodTables} (distinct : Distinct t) :
    Distinct (ps.foldl addParameter t) ∧
      (ps.foldl addParameter t).parameters.length ≤ t.parameters.length + ps.length := by
  induction ps generalizing t with
  | nil => exact ⟨distinct, by simp⟩
  | cons p ps ih =>
    have hp : Distinct (t.addParameter p) :=
      ⟨intern_nodup distinct.parameters p, distinct.variableNames, distinct.literals, distinct.messages⟩
    have hlen : (t.addParameter p).parameters.length ≤ t.parameters.length + 1 :=
      intern_length_le _ _
    obtain ⟨hd, hl⟩ := ih hp
    refine ⟨hd, ?_⟩
    simp only [List.foldl_cons, List.length_cons] at hl ⊢
    omega

/-! ## What the resolver answers -/

section Resolver

variable {constants : List Symbol} {t t' : MethodTables} {o : String} {n : Nat}

theorem query_literal (answered : (resolver constants).query .literal o t = (some n, t')) :
    ∃ inner w, Assembly.backquoted? o = some inner ∧ Assembly.parseLiteral inner = some w ∧
      n = (internValue t.literals w).1 ∧
        t' = { t with literals := (internValue t.literals w).2 } := by
  simp only [Assembly.Resolver.query, resolver] at answered
  split at answered
  · next inner hinner =>
    split at answered
    · next w hw =>
      simp only [Prod.mk.injEq, Option.some.injEq] at answered
      exact ⟨inner, w, hinner, hw, answered.1.symm, answered.2.symm⟩
    · simp at answered
  · simp at answered

theorem query_constant (answered : (resolver constants).query .constant o t = (some n, t')) :
    ∃ j, constants.idxOf? (Symbol.ofText o) = some j ∧ n = (j + 1) % 2 ^ 16 ∧ t' = t := by
  simp only [Assembly.Resolver.query, resolver, Prod.mk.injEq, Option.map_eq_some_iff] at answered
  obtain ⟨⟨j, hj, rfl⟩, rfl⟩ := answered
  exact ⟨j, hj, rfl, rfl⟩

theorem query_argument (answered : (resolver constants).query .argument o t = (some n, t')) :
    t' = t ∧ if (Symbol.ofText o).text = "target" then n = 1
      else ∃ j, t.parameters.idxOf? (Symbol.ofText o) = some j ∧ n = (j + 2) % 2 ^ 16 := by
  simp only [Assembly.Resolver.query, resolver] at answered
  split at answered
  · next htarget =>
    simp only [Prod.mk.injEq, Option.some.injEq] at answered
    exact ⟨answered.2.symm, by simp [htarget, answered.1]⟩
  · next htarget =>
    simp only [Prod.mk.injEq, Option.map_eq_some_iff] at answered
    obtain ⟨⟨j, hj, rfl⟩, rfl⟩ := answered
    exact ⟨rfl, by simp [htarget, hj]⟩

theorem query_variable (answered : (resolver constants).query .variable o t = (some n, t')) :
    n = (intern t.variableNames (Symbol.ofText o)).1 ∧
      t' = { t with variableNames := (intern t.variableNames (Symbol.ofText o)).2 } := by
  simp only [Assembly.Resolver.query, resolver, Prod.mk.injEq, Option.some.injEq] at answered
  exact ⟨answered.1.symm, answered.2.symm⟩

theorem query_message (answered : (resolver constants).query .message o t = (some n, t')) :
    n = (intern t.messages (Symbol.ofText o)).1 ∧
      t' = { t with messages := (intern t.messages (Symbol.ofText o)).2 } := by
  simp only [Assembly.Resolver.query, resolver, Prod.mk.injEq, Option.some.injEq] at answered
  exact ⟨answered.1.symm, answered.2.symm⟩

theorem answers_extends (answers : (resolver constants).Answers t t') :
    Extends t t' ∧ (Distinct t → Distinct t') := by
  obtain ⟨k, o, n, hq⟩ := answers
  cases k with
  | literal =>
    obtain ⟨-, w, -, -, -, rfl⟩ := query_literal hq
    exact ⟨⟨rfl, List.prefix_refl _, internValue_prefix _ _, List.prefix_refl _⟩,
      fun hd => ⟨hd.parameters, hd.variableNames, internValue_distinct hd.literals w,
        hd.messages⟩⟩
  | constant =>
    obtain ⟨-, -, -, rfl⟩ := query_constant hq
    exact ⟨.refl _, id⟩
  | argument =>
    obtain ⟨rfl, -⟩ := query_argument hq
    exact ⟨.refl _, id⟩
  | «variable» =>
    obtain ⟨-, rfl⟩ := query_variable hq
    exact ⟨⟨rfl, intern_prefix _ _, List.prefix_refl _, List.prefix_refl _⟩,
      fun hd => ⟨hd.parameters, intern_nodup hd.variableNames _, hd.literals, hd.messages⟩⟩
  | message =>
    obtain ⟨-, rfl⟩ := query_message hq
    exact ⟨⟨rfl, List.prefix_refl _, List.prefix_refl _, intern_prefix _ _⟩,
      fun hd => ⟨hd.parameters, hd.variableNames, hd.literals, intern_nodup hd.messages _⟩⟩

theorem reach_extends (reach : Relation.ReflTransGen (resolver constants).Answers t t') :
    Extends t t' ∧ (Distinct t → Distinct t') := by
  induction reach with
  | refl => exact ⟨.refl t, id⟩
  | tail _ hstep ih =>
    obtain ⟨hext, hdistinct⟩ := answers_extends hstep
    exact ⟨ih.1.trans hext, hdistinct ∘ ih.2⟩

end Resolver

/-! ## What an answer names -/

/-- What index `n` names in tables `t` of a method of a type whose constants are named
`constants`, for an operand `o` that names an entry of table `k`: the first literal equal to
the value `o` denotes (that value itself when there is none), the constant of that name, the
target or the parameter of that name, the variable or the message of that name. -/
def Names (constants : List Symbol) (t : MethodTables) : Table → String → Nat → Prop
  | .literal, o, n => 1 ≤ n ∧ ∃ inner w v, Assembly.backquoted? o = some inner ∧
      Assembly.parseLiteral inner = some w ∧ t.literals[n - 1]? = some v ∧
      (v = w ∨ v.equal w = true) ∧
      ∀ j < n - 1, ∀ u, t.literals[j]? = some u → u.equal w = false
  | .constant, o, n => 1 ≤ n ∧ constants[n - 1]? = some (Symbol.ofText o)
  | .argument, o, n => if (Symbol.ofText o).text = "target" then n = 1
      else 2 ≤ n ∧ t.parameters[n - 2]? = some (Symbol.ofText o)
  | .variable, o, n => 1 ≤ n ∧ t.variableNames[n - 1]? = some (Symbol.ofText o)
  | .message, o, n => 1 ≤ n ∧ t.messages[n - 1]? = some (Symbol.ofText o)

theorem Names.mono {constants : List Symbol} {t t' : MethodTables} {k : Table} {o : String}
    {n : Nat} (extended : Extends t t') (names : Names constants t k o n) : Names constants t' k o n := by
  cases k with
  | literal =>
    obtain ⟨hn, inner, w, v, hinner, hw, hv, hsame, hfirst⟩ := names
    have hlt : n - 1 < t.literals.length := (List.getElem?_eq_some_iff.mp hv).1
    refine ⟨hn, inner, w, v, hinner, hw, getElem?_of_prefix extended.literals hv, hsame,
      fun j hj u hu => hfirst j hj u ?_⟩
    obtain ⟨rest, hrest⟩ := extended.literals
    rwa [← hrest, List.getElem?_append_left (by omega)] at hu
  | constant => exact names
  | argument =>
    simp only [Names] at names ⊢
    split at names
    · next htarget => simpa [htarget] using names
    · next htarget =>
      simpa [htarget, extended.parameters] using names
  | «variable» => exact ⟨names.1, getElem?_of_prefix extended.variableNames names.2⟩
  | message => exact ⟨names.1, getElem?_of_prefix extended.messages names.2⟩

theorem names_of_query {constants : List Symbol} {t t' : MethodTables} {k : Table} {o : String}
    {n : Nat} (answered : (resolver constants).query k o t = (some n, t')) (atLeastOne : 1 ≤ n)
    (atMostMax : n ≤ maxOperand) (fewConstants : constants.length ≤ 2 ^ 16)
    (fewParameters : t.parameters.length < 2 ^ 16) : Names constants t' k o n := by
  cases k with
  | literal =>
    obtain ⟨inner, w, hinner, hw, rfl, rfl⟩ := query_literal answered
    obtain ⟨v, hv, hsame, hfirst⟩ := internValue_entry t.literals w
    exact ⟨atLeastOne, inner, w, v, hinner, hw, hv, hsame, hfirst⟩
  | constant =>
    obtain ⟨j, hj, rfl, rfl⟩ := query_constant answered
    obtain ⟨hlt, heq, -⟩ := List.idxOf?_eq_some_iff.mp hj
    -- the sixteen-bit position is the position itself: it cannot wrap to an index in range
    have hwrap : (j + 1) % 2 ^ 16 = j + 1 := by
      simp only [maxOperand] at atMostMax
      omega
    simp only [Names, hwrap, Nat.add_sub_cancel, List.getElem?_eq_getElem hlt, heq, and_true]
    omega
  | argument =>
    obtain ⟨rfl, hanswer⟩ := query_argument answered
    simp only [Names]
    split at hanswer
    · next htarget => simpa [htarget] using hanswer
    · next htarget =>
      obtain ⟨j, hj, rfl⟩ := hanswer
      obtain ⟨hlt, heq, -⟩ := List.idxOf?_eq_some_iff.mp hj
      have hwrap : (j + 2) % 2 ^ 16 = j + 2 := by
        simp only [maxOperand] at atMostMax
        omega
      simp only [htarget, if_false, hwrap, Nat.add_sub_cancel, List.getElem?_eq_getElem hlt, heq,
        and_true]
      omega
  | «variable» =>
    obtain ⟨rfl, rfl⟩ := query_variable answered
    exact ⟨atLeastOne, intern_entry _ _⟩
  | message =>
    obtain ⟨rfl, rfl⟩ := query_message answered
    exact ⟨atLeastOne, intern_entry _ _⟩

end MethodTables

/-! ## Methods built from source -/

def Method.tables (m : Method) : MethodTables :=
  ⟨m.parameters, m.variableNames, m.literals, m.messages⟩

theorem buildMethod_eq_ok {constants parameters : List Symbol} {source : String} {m : Method}
    (built : buildMethod constants parameters source = .ok m) :
    ∃ t, Assembly.assembleWith (MethodTables.resolver constants) source
        (parameters.foldl MethodTables.addParameter ⟨[], [], [], []⟩) =
          .ok (m.bytecode.words, t) ∧
      m.tables = t := by
  unfold buildMethod at built
  rcases hasm : Assembly.assembleWith (MethodTables.resolver constants) source
      (parameters.foldl MethodTables.addParameter ⟨[], [], [], []⟩) with e | ⟨words, t⟩
  · simp [hasm, bind, Except.bind] at built
  · simp only [hasm, bind, Except.bind, pure, Except.pure, Except.ok.injEq] at built
    subst built
    exact ⟨t, rfl, rfl⟩

theorem buildMethod_operands {constants parameters : List Symbol} {source : String} {m : Method}
    (built : buildMethod constants parameters source = .ok m)
    (fewConstants : constants.length ≤ 2 ^ 16) (fewParameters : parameters.length < 2 ^ 16) :
    MethodTables.Distinct m.tables ∧
      List.Forall₂ (fun w tokens => ∃ i, i.encode = w ∧
          Assembly.Spelling (Assembly.LabelAt source) i tokens ∧
          ∀ k o, Assembly.namedOperand i tokens = some (k, o) →
            Assembly.startsWithDigit o = false →
            decode w = .ok i ∧ MethodTables.Names constants m.tables k o i.operand)
        m.bytecode.words (Assembly.instructionTokens (Assembly.sourceLines source)) := by
  obtain ⟨t, hasm, htables⟩ := buildMethod_eq_ok built
  obtain ⟨hstart, hlength⟩ :=
    MethodTables.foldl_addParameter parameters MethodTables.distinct_empty
  obtain ⟨hwhole, labels, lines, hcollect, hlines⟩ := Assembly.assembleWith_asked hasm
  have htokens : lines.map Prod.snd = Assembly.instructionTokens (Assembly.sourceLines source) := by
    simpa using Assembly.collectLines_tokens hcollect
  rw [htables]
  refine ⟨(MethodTables.reach_extends hwhole).2 hstart, ?_⟩
  rw [← htokens, List.forall₂_map_right_iff]
  refine List.Forall₂.flip (hlines.imp fun l w ⟨i, s₁, s₂, h₁, hp, h₂, hw⟩ => ?_)
  subst hw
  have hspelling : Assembly.Spelling (Assembly.LabelAt source) i l.2 :=
    (Assembly.parseLine_spells hp).mono fun name n hn =>
      (Assembly.lookup_iff_labelAt hcollect name n).mp hn
  refine ⟨i, rfl, hspelling, fun k o hk hdigit => ?_⟩
  obtain ⟨hfits, h1, h2⟩ := hspelling.fits_of_namedOperand hk
  refine ⟨decode_encode hfits, ?_⟩
  cases Assembly.parseLine_asked hp with
  | named hk' _ hq =>
    rw [hk] at hk'
    cases hk'
    have hparameters₁ : s₁.parameters.length < 2 ^ 16 := by
      rw [(MethodTables.reach_extends h₁).1.parameters]
      simp only [List.length_nil, Nat.zero_add] at hlength
      omega
    exact (MethodTables.names_of_query hq h1 h2 fewConstants hparameters₁).mono
      (MethodTables.reach_extends h₂).1
  | unnamed hall => simp [hall k o hk] at hdigit

end TaskMachine
