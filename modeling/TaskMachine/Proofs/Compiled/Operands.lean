import Mathlib
import TaskMachine.Proofs.Compiled.Interning
import TaskMachine.Proofs.Value.Catalog
import TaskMachine.Frame

/-! # Operands find the entries they name

A type is built by defining its constants and then assembling its methods from source
(`CompiledType.build`).  Redefining a constant replaces its value in place, so each constant
name keeps its first position and holds its last definition (`CompiledType.ConstantsHold`);
assembling a method for a message already defined replaces that method, so a message runs
the method of its last definition, assembled against the constants defined before it.

A frame activated from a method takes the method's tables, the type's constants, and the
arguments padded with `none` to the method's parameters; its variables are the method's
variable names, each once.  So every operand of the method's source that is written as a name
finds, in the frame, the entry it names (`built_operands_find_named_entries`, stated with
`Frame.FindsOperands` and `Frame.Finds`): the first literal equal to the value it denotes, the
last definition of the constant of that name, the receiver or the argument bound to the
parameter of that name, the variable slot or the message of that name.  This holds while the
indexes of constants and parameters fit in the sixteen bits the builder keeps of them.

A literal is found up to the machine's equality, not as written: `0` and `-0` are equal, so
after a `0` in the same method a `-0` pushes `0` (`negative_zero_literal_pushes_zero`). -/

set_option autoImplicit false

namespace TaskMachine

/-! ## Constants and methods of a built type -/

/-- The constants of a type hold a list of definitions: the names are distinct, there is a
value for each, and each name's value is its last definition. -/
structure CompiledType.ConstantsHold (t : CompiledType) (definitions : List (Symbol × Value)) :
    Prop where
  nodup : t.constantNames.Nodup
  length : t.constants.length = t.constantNames.length
  last : ∀ (j : Nat) (name : Symbol), t.constantNames[j]? = some name →
    t.constants[j]? = definitions.reverse.lookup name

namespace CompiledType

theorem lookup_reverse_concat {definitions : List (Symbol × Value)} {name other : Symbol}
    {v : Value} :
    (definitions ++ [(name, v)]).reverse.lookup other =
      if other = name then some v else definitions.reverse.lookup other := by
  simp only [List.reverse_append, List.reverse_singleton, List.singleton_append, List.lookup_cons]
  by_cases h : other = name
  · simp [h]
  · simp [beq_false_of_ne h, h]

theorem ConstantsHold.withConstant {t : CompiledType} {definitions : List (Symbol × Value)}
    (hold : t.ConstantsHold definitions) (name : Symbol) (v : Value) :
    (t.withConstant name v).ConstantsHold (definitions ++ [(name, v)]) ∧
      (t.withConstant name v).constantNames.length ≤ t.constantNames.length + 1 := by
  unfold CompiledType.withConstant
  split
  · -- a redefinition: the value in the name's place is replaced
    next i hi =>
    obtain ⟨hlt, heq, -⟩ := List.idxOf?_eq_some_iff.mp hi
    refine ⟨⟨hold.nodup, by simp [hold.length], fun j other hj => ?_⟩, by simp⟩
    dsimp only at hj ⊢
    rw [lookup_reverse_concat]
    by_cases hji : j = i
    · subst hji
      have hother : other = name := by
        rw [List.getElem?_eq_getElem hlt, heq] at hj
        exact (Option.some.inj hj).symm
      rw [if_pos hother, List.getElem?_set_self (by rw [hold.length]; exact hlt)]
    · -- the names are distinct, so another position holds another name
      have hne : other ≠ name := by
        intro hon
        subst hon
        obtain ⟨hjlt, hjname⟩ := List.getElem?_eq_some_iff.mp hj
        exact hji (hold.nodup.getElem_inj_iff.mp (hjname.trans heq.symm))
      rw [if_neg hne, List.getElem?_set_ne (Ne.symm hji), hold.last j other hj]
  · -- a new name goes at the end
    next hi =>
    have hnew : name ∉ t.constantNames := List.idxOf?_eq_none_iff.mp hi
    refine ⟨⟨?_, by simp [hold.length], fun j other hj => ?_⟩, by simp⟩
    · rw [List.nodup_append]
      refine ⟨hold.nodup, List.pairwise_singleton _ _, fun a ha b hb => ?_⟩
      rw [List.mem_singleton.mp hb]
      exact fun heq => hnew (heq ▸ ha)
    · dsimp only at hj ⊢
      rw [lookup_reverse_concat]
      rw [List.getElem?_append] at hj ⊢
      rw [hold.length]
      split
      · next hj' =>
        rw [if_pos hj'] at hj
        have hne : other ≠ name := fun hon => hnew (hon ▸ List.mem_of_getElem? hj)
        rw [if_neg hne, hold.last j other hj]
      · next hj' =>
        rw [if_neg hj'] at hj
        obtain ⟨hlt, rfl⟩ := List.getElem?_eq_some_iff.mp hj
        simp only [List.length_singleton] at hlt
        have h0 : j - t.constantNames.length = 0 := by omega
        simp [h0]

theorem ConstantsHold.foldl (l : List (Symbol × Value)) {t : CompiledType}
    {definitions : List (Symbol × Value)} (hold : t.ConstantsHold definitions) :
    (l.foldl (fun t d => t.withConstant d.1 d.2) t).ConstantsHold (definitions ++ l) ∧
      (l.foldl (fun t d => t.withConstant d.1 d.2) t).constantNames.length ≤
        t.constantNames.length + l.length := by
  induction l generalizing t definitions with
  | nil => exact ⟨by simpa using hold, by simp⟩
  | cons d rest ih =>
    obtain ⟨name, v⟩ := d
    obtain ⟨hstep, hlen⟩ := hold.withConstant name v
    obtain ⟨hall, hlen'⟩ := ih hstep
    rw [List.foldl_cons]
    dsimp only
    refine ⟨by rwa [List.append_assoc, List.singleton_append] at hall, ?_⟩
    rw [List.length_cons]
    omega

theorem constantsHold_empty (name : Name) : (CompiledType.empty name).ConstantsHold [] :=
  ⟨.nil, rfl, fun j name hj => by simp [CompiledType.empty] at hj⟩

theorem lookup_pair {α β : Type} [BEq α] (key other : α) (v : β) :
    [(key, v)].lookup other = if other == key then some v else none := by
  cases h : other == key <;> simp [List.lookup, h]

theorem withMethod_constantNames (t : CompiledType) (message : Symbol) (m : Method) :
    (t.withMethod message m).constantNames = t.constantNames := by
  unfold withMethod
  split <;> rfl

theorem withMethod_constants (t : CompiledType) (message : Symbol) (m : Method) :
    (t.withMethod message m).constants = t.constants := by
  unfold withMethod
  split <;> rfl

theorem withMethod_method?_self (t : CompiledType) (message : Symbol) (m : Method) :
    (t.withMethod message m).method? message = some m := by
  unfold withMethod method?
  split
  · next hany =>
    rw [lookup_map_replace, if_pos rfl, if_pos hany]
  · next hany =>
    have hnone : t.methods.lookup message = none := by
      rw [List.lookup_eq_none_iff]
      intro e he
      rw [bne_iff_ne, ne_eq]
      intro heq
      exact hany (List.any_eq_true.mpr ⟨e, he, beq_iff_eq.mpr heq.symm⟩)
    simp [List.lookup_append, hnone]

theorem withMethod_method?_ne (t : CompiledType) {message other : Symbol} (m : Method)
    (different : other ≠ message) : (t.withMethod message m).method? other = t.method? other := by
  unfold withMethod method?
  split
  · rw [lookup_map_replace, if_neg different]
  · simp [List.lookup_append, List.lookup, beq_false_of_ne different]

theorem withSourceMethod_eq_ok {t t' : CompiledType} {message : Symbol}
    {parameters : List Symbol} {source : String}
    (added : t.withSourceMethod message parameters source = .ok t') :
    ∃ m, buildMethod t.constantNames parameters source = .ok m ∧
      t' = t.withMethod message m := by
  unfold withSourceMethod at added
  rcases hm : buildMethod t.constantNames parameters source with e | m
  · simp [hm, bind, Except.bind] at added
  · simp only [hm, bind, Except.bind, pure, Except.pure, Except.ok.injEq] at added
    exact ⟨m, rfl, added.symm⟩

theorem foldlM_withSourceMethod {methods : List (Symbol × List Symbol × String)}
    {t c : CompiledType}
    (added : methods.foldlM (fun t d => t.withSourceMethod d.1 d.2.1 d.2.2) t = .ok c) :
    c.constantNames = t.constantNames ∧ c.constants = t.constants ∧
      ∀ message,
        (methods.reverse.lookup message = none → c.method? message = t.method? message) ∧
        ∀ parameters source, methods.reverse.lookup message = some (parameters, source) →
          ∃ m, c.method? message = some m ∧
            buildMethod t.constantNames parameters source = .ok m := by
  induction methods generalizing t with
  | nil =>
    simp only [List.foldlM_nil, pure, Except.pure, Except.ok.injEq] at added
    subst added
    exact ⟨rfl, rfl, fun _ => ⟨fun _ => rfl, fun _ _ hl => by simp at hl⟩⟩
  | cons d rest ih =>
    obtain ⟨message₀, parameters₀, source₀⟩ := d
    rw [List.foldlM_cons] at added
    rcases hstep : t.withSourceMethod message₀ parameters₀ source₀ with e | t₁
    · simp [hstep, bind, Except.bind] at added
    · simp only [hstep, bind, Except.bind] at added
      obtain ⟨m₀, hm₀, rfl⟩ := withSourceMethod_eq_ok hstep
      obtain ⟨hnames, hvalues, hmethods⟩ := ih added
      rw [withMethod_constantNames] at hnames
      rw [withMethod_constants] at hvalues
      refine ⟨hnames, hvalues, fun message => ?_⟩
      obtain ⟨hkeep, hlast⟩ := hmethods message
      simp only [List.reverse_cons, List.lookup_append, lookup_pair]
      rcases hrest : rest.reverse.lookup message with _ | ⟨parameters, source⟩
      · rw [withMethod_constantNames] at hlast
        by_cases hmsg : message = message₀
        · subst hmsg
          refine ⟨fun hl => by simp at hl, fun parameters source hl => ?_⟩
          simp only [Option.none_or, beq_self_eq_true, if_true, Option.some.injEq,
            Prod.mk.injEq] at hl
          obtain ⟨rfl, rfl⟩ := hl
          exact ⟨m₀, (hkeep hrest).trans (withMethod_method?_self _ _ _), hm₀⟩
        · refine ⟨fun _ => (hkeep hrest).trans (withMethod_method?_ne _ _ hmsg), ?_⟩
          intro parameters source hl
          simp [hmsg] at hl
      · rw [withMethod_constantNames] at hlast
        refine ⟨fun hl => by simp at hl, fun parameters' source' hl => ?_⟩
        simp only [Option.some_or, Option.some.injEq, Prod.mk.injEq] at hl
        obtain ⟨rfl, rfl⟩ := hl
        exact hlast parameters source hrest

theorem build_eq_ok {name : Name} {constants : List (Symbol × Value)}
    {methods : List (Symbol × List Symbol × String)} {c : CompiledType}
    (built : CompiledType.build name constants methods = .ok c) :
    c.ConstantsHold constants ∧ c.constantNames.length ≤ constants.length ∧
      ∀ message parameters source, methods.reverse.lookup message = some (parameters, source) →
        ∃ m, c.method? message = some m ∧
          buildMethod c.constantNames parameters source = .ok m := by
  unfold CompiledType.build at built
  -- the definition's pattern-matching lambdas are its projection forms
  change List.foldlM (fun t d => t.withSourceMethod d.1 d.2.1 d.2.2)
    (constants.foldl (fun t d => t.withConstant d.1 d.2) (CompiledType.empty name)) methods =
      .ok c at built
  obtain ⟨hnames, hvalues, hmethods⟩ := foldlM_withSourceMethod built
  obtain ⟨hhold, hlen⟩ := ConstantsHold.foldl constants (constantsHold_empty name)
  rw [List.nil_append] at hhold
  rw [show (CompiledType.empty name).constantNames.length = 0 from rfl, Nat.zero_add] at hlen
  refine ⟨⟨?_, ?_, fun j other hj => ?_⟩, ?_, fun message parameters source hl => ?_⟩
  · rw [hnames]
    exact hhold.nodup
  · rw [hnames, hvalues]
    exact hhold.length
  · rw [hnames] at hj
    rw [hvalues]
    exact hhold.last j other hj
  · rw [hnames]
    exact hlen
  · rw [hnames]
    exact (hmethods message).2 parameters source hl

end CompiledType

/-! ## Frames -/

theorem Catalog.ofEntries_of_nodup {entries : List (Symbol × Value)}
    (distinct : (entries.map Prod.fst).Nodup) : Catalog.ofEntries entries = entries := by
  unfold Catalog.ofEntries
  suffices hacc : ∀ acc : Catalog, ((acc ++ entries).map Prod.fst).Nodup →
      entries.foldl (fun c e => c.insert e.1 e.2) acc = acc ++ entries by
    simpa using hacc [] (by simpa using distinct)
  clear distinct
  induction entries with
  | nil => simp
  | cons e rest ih =>
    intro acc hnodup
    have hfresh : acc.any (·.1 == e.1) = false := by
      simp only [List.map_append, List.map_cons, List.nodup_append, List.mem_cons,
        List.mem_map] at hnodup
      simp only [List.any_eq_false, beq_iff_eq]
      intro x hx heq
      exact hnodup.2.2 x.1 ⟨x, hx, rfl⟩ e.1 (.inl rfl) heq
    rw [List.foldl_cons, Catalog.insert, hfresh, if_neg (by simp)]
    rw [ih (acc ++ [e]) (by simpa using hnodup)]
    simp

namespace Frame

theorem tables_of_activate {c : CompiledType} {target : Value} {message : Symbol}
    {arguments : List Value} {base : Nat} {f : Frame} {m : Method}
    (activated : activate c target message arguments base = .ok f) (found : c.method? message = some m) :
    f.target = target ∧
      f.arguments = arguments ++ List.replicate (m.parameters.length - arguments.length) .none ∧
      f.locals = Catalog.ofEntries (m.variableNames.map fun v => (v, .none)) ∧
      f.constants = c.constants ∧ f.literals = m.literals ∧ f.messages = m.messages ∧
      f.bytecode = m.bytecode := by
  unfold activate at activated
  rw [found] at activated
  dsimp only at activated
  split at activated
  · cases activated
  · cases activated
    exact ⟨rfl, rfl, rfl, rfl, rfl, rfl, rfl⟩

theorem locals_of_activate {c : CompiledType} {target : Value} {message : Symbol}
    {arguments : List Value} {base : Nat} {f : Frame} {m : Method}
    (activated : activate c target message arguments base = .ok f) (found : c.method? message = some m)
    (distinct : m.variableNames.Nodup) :
    f.locals = m.variableNames.map fun v => (v, .none) := by
  rw [(tables_of_activate activated found).2.2.1, Catalog.ofEntries_of_nodup]
  simpa [List.map_map, Function.comp_def] using distinct

theorem entry_of_getElem? {α : Type} {table : Table} {entries : List α} {n : Nat} {v : α}
    (atLeastOne : 1 ≤ n) (found : entries[n - 1]? = some v) : entry table entries n = .ok v := by
  unfold entry
  rw [if_neg (by omega), found]

theorem argument_of_padded {f : Frame} {arguments : List Value} {p j : Nat}
    (padded : f.arguments = arguments ++ List.replicate (p - arguments.length) .none)
    (below : j < p) : f.argument (j + 2) = .ok (arguments.getD j .none) := by
  have hget : f.arguments[j]? = some (arguments.getD j .none) := by
    rw [padded, List.getElem?_append]
    split
    · next hlt => simp [List.getD_eq_getElem?_getD, List.getElem?_eq_getElem hlt]
    · next hge =>
      rw [List.getElem?_replicate, if_pos (by omega)]
      simp [List.getD_eq_getElem?_getD, List.getElem?_eq_none (Nat.le_of_not_lt hge)]
  unfold argument
  rw [if_neg (by omega), if_neg (by omega), Nat.add_sub_cancel, hget]

end Frame

/-! ## What an operand finds -/

/-- What an operand `o` that names an entry of table `k` finds at index `n` in a frame `f`, of
a method with parameters `parameters` activated with `arguments`, in a type whose constants
have the values `definition`: the first literal equal to the value `o` denotes (that value
itself when there is none), the value of the constant of that name, the receiver, or the
argument bound to the parameter of that name (`none` when it was not given), the variable
slot of that name, or the message of that name. -/
def Frame.Finds (f : Frame) (parameters : List Symbol) (arguments : List Value)
    (definition : Symbol → Option Value) : Table → String → Nat → Prop
  | .literal, o, n => ∃ inner w v, Assembly.backquoted? o = some inner ∧
      Assembly.parseLiteral inner = some w ∧ f.literal n = .ok v ∧
      (v = w ∨ v.equal w = true) ∧
      ∀ j < n - 1, ∀ u, f.literals[j]? = some u → u.equal w = false
  | .constant, o, n => ∃ v, definition (Symbol.ofText o) = some v ∧ f.constant n = .ok v
  | .argument, o, n => if (Symbol.ofText o).text = "target" then f.argument n = .ok f.target
      else ∃ j, parameters[j]? = some (Symbol.ofText o) ∧
        f.argument n = .ok (arguments.getD j .none)
  | .variable, o, n => (f.locals[n - 1]?).map Prod.fst = some (Symbol.ofText o)
  | .message, o, n => f.messageAt n = .ok (Symbol.ofText o)

theorem Frame.finds_of_names {c : CompiledType} {definitions : List (Symbol × Value)}
    (hold : c.ConstantsHold definitions) {message : Symbol} {m : Method}
    (found : c.method? message = some m) (distinct : m.tables.Distinct) {target : Value}
    {arguments : List Value} {base : Nat} {f : Frame}
    (activated : activate c target message arguments base = .ok f) {k : Table} {o : String} {n : Nat}
    (names : MethodTables.Names c.constantNames m.tables k o n) :
    f.Finds m.parameters arguments (definitions.reverse.lookup ·) k o n := by
  obtain ⟨-, harg, -, hconst, hlits, hmsgs, -⟩ := tables_of_activate activated found
  cases k with
  | literal =>
    obtain ⟨hn, inner, w, v, hinner, hw, hv, hsame, hfirst⟩ := names
    refine ⟨inner, w, v, hinner, hw, ?_, hsame, ?_⟩
    · exact entry_of_getElem? hn (hlits ▸ hv)
    · rw [hlits]
      exact hfirst
  | constant =>
    obtain ⟨hn, hname⟩ := names
    have hlt : n - 1 < c.constants.length := by
      rw [hold.length]
      exact (List.getElem?_eq_some_iff.mp hname).1
    obtain ⟨v, hv⟩ : ∃ v, c.constants[n - 1]? = some v :=
      ⟨_, List.getElem?_eq_getElem hlt⟩
    refine ⟨v, ?_, entry_of_getElem? hn (hconst ▸ hv)⟩
    show definitions.reverse.lookup (Symbol.ofText o) = some v
    rw [← hold.last (n - 1) _ hname, hv]
  | argument =>
    simp only [MethodTables.Names] at names
    simp only [Finds]
    split at names
    · next htarget' =>
      subst names
      rw [if_pos htarget']
      rfl
    · next htarget' =>
      rw [if_neg htarget']
      obtain ⟨hn, hparam⟩ := names
      have hlt : n - 2 < m.parameters.length := (List.getElem?_eq_some_iff.mp hparam).1
      refine ⟨n - 2, hparam, ?_⟩
      have hn2 : n = n - 2 + 2 := by omega
      rw [hn2]
      exact argument_of_padded harg hlt
  | «variable» =>
    obtain ⟨-, hname⟩ := names
    show (f.locals[n - 1]?).map Prod.fst = some (Symbol.ofText o)
    rw [locals_of_activate activated found distinct.variableNames, List.getElem?_map]
    simp [show m.variableNames[n - 1]? = some (Symbol.ofText o) from hname]
  | message =>
    obtain ⟨hn, hname⟩ := names
    exact entry_of_getElem? hn (hmsgs ▸ hname)

/-- A frame finds the operands of a method's source when its literal, variable and message
tables hold no entry twice, and each word of its code is the instruction of the matching
instruction line of the source, which spells it, and whose operand, when written as a name,
finds in the frame the entry it names. -/
def Frame.FindsOperands (f : Frame) (parameters : List Symbol) (arguments : List Value)
    (definition : Symbol → Option Value) (source : String) : Prop :=
  Value.Distinct f.literals ∧ (f.locals.map Prod.fst).Nodup ∧ f.messages.Nodup ∧
    List.Forall₂ (fun w tokens => ∃ i, i.encode = w ∧
        Assembly.Spelling (Assembly.LabelAt source) i tokens ∧
        ∀ k o, Assembly.namedOperand i tokens = some (k, o) →
          Assembly.startsWithDigit o = false → decode w = .ok i ∧
            f.Finds parameters arguments definition k o i.operand)
      f.bytecode.words (Assembly.instructionTokens (Assembly.sourceLines source))

/-! ## Built types -/

/-- Every frame activated from a method of a built type finds the operands of the method's
source, with the arguments bound to the method's parameters and each constant holding its
last definition, as long as the indexes of constants and parameters fit in sixteen bits. -/
theorem built_operands_find_named_entries {name : Name} {constants : List (Symbol × Value)}
    {methods : List (Symbol × List Symbol × String)} {c : CompiledType}
    (built : CompiledType.build name constants methods = .ok c) {message : Symbol}
    {parameters : List Symbol} {source : String}
    (found : methods.reverse.lookup message = some (parameters, source))
    {target : Value} {arguments : List Value} {base : Nat} {f : Frame}
    (activated : Frame.activate c target message arguments base = .ok f)
    (fewConstants : constants.length ≤ 2 ^ 16) (fewParameters : parameters.length < 2 ^ 16) :
    ∃ m, c.method? message = some m ∧
      f.FindsOperands m.parameters arguments (constants.reverse.lookup ·) source := by
  obtain ⟨hhold, hlen, hmethods⟩ := CompiledType.build_eq_ok built
  obtain ⟨m, hm, hbuild⟩ := hmethods message parameters source found
  obtain ⟨hdistinct, hwords⟩ :=
    buildMethod_operands hbuild (Nat.le_trans hlen fewConstants) fewParameters
  obtain ⟨-, -, -, -, hlits, hmsgs, hcode⟩ := Frame.tables_of_activate activated hm
  have hnames : m.variableNames.Nodup := hdistinct.variableNames
  refine ⟨m, hm, ?_, ?_, ?_, ?_⟩
  · rw [hlits]
    exact hdistinct.literals
  · rw [Frame.locals_of_activate activated hm hnames]
    simpa [List.map_map, Function.comp_def] using hnames
  · rw [hmsgs]
    exact hdistinct.messages
  · -- the code is the method's, whose operands name entries of the tables the frame took
    rw [hcode]
    refine hwords.imp fun w tokens ⟨i, hi, hspelling, hnamed⟩ =>
      ⟨i, hi, hspelling, fun k o hk hdigit => ?_⟩
    obtain ⟨hdecode, hnamed⟩ := hnamed k o hk hdigit
    exact ⟨hdecode, Frame.finds_of_names hhold hm hdistinct activated hnamed⟩

/-- A type whose method `get` pushes its constant `answer`. -/
theorem answer_operand_found :
    ∃ c f m, CompiledType.build ⟨["acme", "types", "Oracle"]⟩ [(⟨"answer"⟩, .number 42)]
        [(⟨"get"⟩, [], "PUSH CONSTANT $answer")] = .ok c ∧
      Frame.activate c .none ⟨"get"⟩ [] 0 = .ok f ∧ c.method? ⟨"get"⟩ = some m ∧
      f.FindsOperands m.parameters [] ([(⟨"answer"⟩, Value.number 42)].reverse.lookup ·)
        "PUSH CONSTANT $answer" := by
  have hpush : Assembly.readLine "PUSH CONSTANT $answer" =
      .instruction ["PUSH", "CONSTANT", "$answer"] :=
    Assembly.readLine_words rfl (by decide) (by decide)
  have hcollect : Assembly.collectLines (Assembly.sourceLines "PUSH CONSTANT $answer") 1 [] [] =
      .ok ([], [(1, ["PUSH", "CONSTANT", "$answer"])]) := by
    rw [show "PUSH CONSTANT $answer" = "\n".intercalate ["PUSH CONSTANT $answer"] from rfl,
      Assembly.sourceLines_intercalate (by decide), Assembly.collectLines_instruction hpush]
    rfl
  have hasm := Assembly.assembleWith_of_collect
    (MethodTables.resolver ((CompiledType.empty ⟨["acme", "types", "Oracle"]⟩).withConstant
      ⟨"answer"⟩ (.number 42)).constantNames) ⟨[], [], [], []⟩ hcollect
  have hbuild : CompiledType.build ⟨["acme", "types", "Oracle"]⟩ [(⟨"answer"⟩, .number 42)]
      [(⟨"get"⟩, [], "PUSH CONSTANT $answer")] =
      .ok ⟨⟨["acme", "types", "Oracle"]⟩, [⟨"answer"⟩], [.number 42],
        [(⟨"get"⟩, ⟨[], [], [], [], ⟨[(Instruction.push .constant 1).encode]⟩⟩)]⟩ := by
    unfold CompiledType.build CompiledType.withSourceMethod buildMethod
    simp only [List.foldl_cons, List.foldl_nil, List.foldlM_cons, List.foldlM_nil]
    rw [hasm]
    rfl
  obtain ⟨c, hc, f, hf⟩ : ∃ c, CompiledType.build ⟨["acme", "types", "Oracle"]⟩
      [(⟨"answer"⟩, .number 42)] [(⟨"get"⟩, [], "PUSH CONSTANT $answer")] = .ok c ∧
      ∃ f, Frame.activate c .none ⟨"get"⟩ [] 0 = .ok f := ⟨_, hbuild, _, rfl⟩
  obtain ⟨m, hm, hfinds⟩ := built_operands_find_named_entries hc rfl hf (by decide) (by decide)
  exact ⟨c, f, m, hc, hf, hm, hfinds⟩

/-! ## Literals are found up to equality -/

/-- A method that pushes the literal `0` and then the literal `-0`. -/
def zeroesSource : String :=
  "\n".intercalate ["PUSH LITERAL `0`", "PUSH LITERAL `-0`"]

/-- The literals `0` and `-0` are equal, so they share one entry: both pushes of the method
push literal 1, which is `0`, although `-0` denotes the other zero. -/
theorem negative_zero_literal_pushes_zero :
    ∃ c f,
      CompiledType.build ⟨["acme", "types", "Gadget"]⟩ [] [(⟨"run"⟩, [], zeroesSource)] = .ok c ∧
      Frame.activate c .none ⟨"run"⟩ [] 0 = .ok f ∧
      f.bytecode.words =
        [(Instruction.push .literal 1).encode, (Instruction.push .literal 1).encode] ∧
      Assembly.parseLiteral "-0" = some (.number (-0)) ∧ f.literal 1 = .ok (.number 0) ∧
      (0 : Float) ≠ -0 := by
  have hzero : Assembly.readLine "PUSH LITERAL `0`" =
      .instruction ["PUSH", "LITERAL", "`0`"] :=
    Assembly.readLine_words rfl (by decide) (by decide)
  have hnegative : Assembly.readLine "PUSH LITERAL `-0`" =
      .instruction ["PUSH", "LITERAL", "`-0`"] :=
    Assembly.readLine_words rfl (by decide) (by decide)
  have hcollect : Assembly.collectLines (Assembly.sourceLines zeroesSource) 1 [] [] =
      .ok ([], [(1, ["PUSH", "LITERAL", "`0`"]), (2, ["PUSH", "LITERAL", "`-0`"])]) := by
    rw [zeroesSource, Assembly.sourceLines_intercalate (by decide),
      Assembly.collectLines_instruction hzero, Assembly.collectLines_instruction hnegative]
    rfl
  have hasm := Assembly.assembleWith_of_collect
    (MethodTables.resolver (CompiledType.empty ⟨["acme", "types", "Gadget"]⟩).constantNames)
    ⟨[], [], [], []⟩ hcollect
  have hbuild :
      CompiledType.build ⟨["acme", "types", "Gadget"]⟩ [] [(⟨"run"⟩, [], zeroesSource)] =
        .ok ⟨⟨["acme", "types", "Gadget"]⟩, [], [],
          [(⟨"run"⟩, ⟨[], [], [.number 0], [],
            ⟨[(Instruction.push .literal 1).encode, (Instruction.push .literal 1).encode]⟩⟩)]⟩ := by
    unfold CompiledType.build CompiledType.withSourceMethod buildMethod
    simp only [List.foldl_nil, List.foldlM_cons, List.foldlM_nil]
    rw [hasm]
    rfl
  have hne : (0 : Float) ≠ -0 := by
    intro h
    have hbits := congrArg Float.toBits h
    revert hbits
    decide
  exact ⟨_, _, hbuild, rfl, rfl, rfl, rfl, hne⟩

end TaskMachine
