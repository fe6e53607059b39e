import BoolCalc.Proofs.Depth
import BoolCalc.Proofs.Precedence

/-!
# What the log tells of an evaluation

The log of an evaluation tells of the reading, of the run and of the outcome, in this order. The run
is told of only if the reading succeeds, and then token by token, with a depth after each that is
told by counting. The operators that precedence sends off are emitted at once, and what is emitted
is never taken back, so they are found again in the reverse Polish sequence, in the same order.
-/

namespace BoolCalc

/-- The operator that a token is, if it is one. -/
def Token.operator? : Token → Option Operator
  | .operator op => some op
  | .literal _ | .opening | .closing => none

/-! ### The reading -/

namespace Conversion

/-- The operators that precedence sends off while lexemes are read, in the order in which they
leave. -/
def sentOff (st : Conversion) : List Lexeme → List Operator
  | [] => []
  | x :: xs =>
    match st.step x with
    | .ok st' => st.sentBy x ++ st'.sentOff xs
    | .error _ => []

variable {st st' : Conversion} {x : Lexeme} {xs : List Lexeme} {ts : List Token}

/-- The reading tells of the operators that precedence sends off, and of nothing else. -/
lemma trail_foldlM_tellStep (st : Conversion) (xs : List Lexeme) :
    (xs.foldlM tellStep st).trail = (st.sentOff xs).map Event.displaced := by
  induction xs generalizing st with
  | nil => rfl
  | cons x xs ih =>
    rw [List.foldlM_cons, sentOff]
    cases hx : st.step x with
    | error e =>
      have hout : (st.tellStep x).outcome = .error e := by rw [outcome_tellStep, hx]
      rw [Told.trail_bind_error hout, tellStep, hx]
      rfl
    | ok next =>
      have hout : (st.tellStep x).outcome = .ok next := by rw [outcome_tellStep, hx]
      rw [Told.trail_bind_ok hout, ih, tellStep, hx, List.map_append]

/-- The operators among the emitted tokens, last one first. -/
def sentOut (st : Conversion) : List Operator := st.emitted.filterMap Token.operator?

lemma filterMap_operator?_emitted (ops : List Operator) (emitted : List Token) :
    ((ops.map Token.operator).reverse ++ emitted).filterMap Token.operator? =
      ops.reverse ++ emitted.filterMap Token.operator? := by
  rw [List.filterMap_append, ← List.map_reverse, List.filterMap_map]
  exact congrArg (· ++ _) List.filterMap_some

lemma sentOut_push (st : Conversion) (op : Operator) :
    (st.push op).sentOut = (st.leaving op).reverse ++ st.sentOut :=
  filterMap_operator?_emitted _ _

lemma sentOut_close {position : ℕ} (hc : st.close position = .ok st') :
    st.sentOut.Sublist st'.sentOut := by
  simp only [close] at hc
  split at hc
  · cases hc
  · cases hc
    unfold sentOut
    rw [filterMap_operator?_emitted]
    exact List.sublist_append_right _ _

lemma sentOut_read {position : ℕ} {t : Token} (ht : st.read position t = .ok st') :
    (match t with
      | .operator op => (st.leaving op).reverse ++ st.sentOut
      | _ => st.sentOut).Sublist st'.sentOut := by
  cases t with
  | literal b =>
    rw [read] at ht
    split_ifs at ht
    cases ht
    exact List.Sublist.refl _
  | operator op =>
    rw [read] at ht
    split_ifs at ht
    · cases ht
      rw [sentOut_push]
    · cases ht
      rw [sentOut_push]
  | opening =>
    rw [read] at ht
    split_ifs at ht
    cases ht
    exact List.Sublist.refl _
  | closing =>
    rw [read] at ht
    split_ifs at ht
    exact sentOut_close ht

/-- **Step**: what precedence sends off is emitted at once. -/
lemma sentBy_sublist (hx : st.step x = .ok st') :
    ((st.sentBy x).reverse ++ st.sentOut).Sublist st'.sentOut := by
  rw [step, Lexeme.read] at hx
  rw [sentBy]
  cases ht : x.token? with
  | none =>
    rw [ht] at hx
    cases hx
  | some t =>
    rw [ht] at hx
    have hread := sentOut_read (t := t) hx
    cases t <;> exact hread

/-- **Run**: and it is never taken back. -/
lemma sentOff_sublist (hxs : st.run xs = .ok st') :
    ((st.sentOff xs).reverse ++ st.sentOut).Sublist st'.sentOut := by
  induction xs generalizing st with
  | nil =>
    cases hxs
    exact List.Sublist.refl _
  | cons x xs ih =>
    rw [run_cons] at hxs
    rw [sentOff]
    cases hx : st.step x with
    | error e =>
      rw [hx] at hxs
      cases hxs
    | ok next =>
      rw [hx] at hxs
      rw [List.reverse_append, List.append_assoc]
      exact ((sentBy_sublist hx).append_left _).trans (ih hxs)

/-- What is emitted stands in the result. -/
lemma emitted_prefix_of_finish (h : st.finish = .ok ts) : st.emitted.reverse <+: ts := by
  rw [finish] at h
  split_ifs at h
  split at h
  · cases h
  · cases h
    exact List.prefix_append _ _

end Conversion

/-- The operators that precedence sends off while a text is read, in the order in which they
leave. -/
def sentOff (s : Symbols) (text : String) : List Operator :=
  Conversion.start.sentOff (Lexeme.scan s text.toList)

section Reading

variable {s : Symbols} {cs : List Char} {ts : List Token}

lemma trail_tellRpn : (tellRpn s cs).trail =
    (Conversion.start.sentOff (Lexeme.scan s cs)).map Event.displaced := by
  rw [tellRpn]
  cases Lexeme.scan s cs with
  | nil => rfl
  | cons x xs =>
    simp only [Told.trail_bind_untold]
    exact Conversion.trail_foldlM_tellStep _ _

lemma exists_run_of_toRpn (h : toRpn s cs = .ok ts) :
    ∃ st, Conversion.start.run (Lexeme.scan s cs) = .ok st ∧ st.finish = .ok ts := by
  rw [toRpn_eq] at h
  split at h
  · cases h
  · cases hrun : Conversion.start.run (Lexeme.scan s cs) with
    | error e =>
      rw [hrun] at h
      cases h
    | ok st =>
      rw [hrun] at h
      exact ⟨st, rfl, h⟩

/-- The operators that the reading sends off are found again in the result. -/
lemma sentOff_sublist_of_toRpn (h : toRpn s cs = .ok ts) :
    (Conversion.start.sentOff (Lexeme.scan s cs)).Sublist (ts.filterMap Token.operator?) := by
  obtain ⟨st, hrun, hfinish⟩ := exists_run_of_toRpn h
  have hsent := Conversion.sentOff_sublist hrun
  have hemitted : st.sentOut.reverse.Sublist (ts.filterMap Token.operator?) := by
    rw [Conversion.sentOut, ← List.filterMap_reverse]
    exact (Conversion.emitted_prefix_of_finish hfinish).sublist.filterMap _
  refine List.Sublist.trans ?_ hemitted
  rw [← List.reverse_reverse (Conversion.start.sentOff _)]
  exact ((List.sublist_append_left _ _).trans hsent).reverse

end Reading

/-! ### The run -/

namespace Rpn

variable (s : Symbols)

lemma length_of_step {stack next : List Bool} {t : Token} (h : step s stack t = .ok next) :
    (next.length : ℤ) = stack.length + depth [t] := by
  cases t with
  | literal b =>
    cases h
    rfl
  | operator op =>
    rcases op.eq_not_or_connective with rfl | ⟨c, rfl⟩
    · cases stack with
      | nil => cases h
      | cons a rest =>
        cases h
        rfl
    · rw [depth_connective]
      rcases stack with _ | ⟨b, _ | ⟨a, rest⟩⟩
      · simp [step] at h
      · simp [step] at h
      · simp only [step, c.isUnary_op, c.binary?_op] at h
        cases h
        simp only [Option.toList_some, List.singleton_append, List.length_cons]
        omega
  | opening => cases h
  | closing => cases h

/-- A run that comes to an end is told of token by token, each with the depth behind it. -/
lemma trail_of_run {stack final : List Bool} {ts : List Token} (h : run s stack ts = .ok final) :
    (final.length : ℤ) = stack.length + depth ts ∧
    ∃ depths : List ℕ,
      (ts.foldlM (tellStep s) stack).trail =
        List.zipWith Event.taken (ts.map (Token.spell s)) depths ∧
      depths.length = ts.length ∧
      ∀ k (hk : k < depths.length), (depths[k] : ℤ) = stack.length + depth (ts.take (k + 1)) := by
  induction ts generalizing stack with
  | nil =>
    cases h
    exact ⟨by simp, [], rfl, rfl, fun k hk => absurd hk (Nat.not_lt_zero k)⟩
  | cons t ts ih =>
    rw [run_cons] at h
    cases hstep : step s stack t with
    | error e =>
      rw [hstep] at h
      cases h
    | ok next =>
      rw [hstep] at h
      have hnext := length_of_step s hstep
      obtain ⟨hfinal, depths, htrail, hlength, hdepths⟩ := ih h
      have hcons (us : List Token) : depth (t :: us) = depth [t] + depth us := depth_append [t] us
      refine ⟨by rw [hfinal, hnext, hcons ts, Int.add_assoc], next.length :: depths, ?_, ?_, ?_⟩
      · have hout : (tellStep s stack t).outcome = .ok next := hstep
        rw [List.foldlM_cons, Told.trail_bind_ok hout, htrail, tellStep, hstep, List.map_cons,
          List.zipWith_cons_cons]
        rfl
      · rw [List.length_cons, hlength, List.length_cons]
      · intro k hk
        cases k with
        | zero => simpa using hnext
        | succ k =>
          have hk' : k < depths.length := by simpa using hk
          rw [List.getElem_cons_succ, hdepths k hk', hnext, List.take_succ_cons,
            hcons (ts.take (k + 1)), Int.add_assoc]

/-- The written sequence is the tokens with blanks between them. -/
lemma format_eq_intercalate (ts : List Token) :
    format s ts = [' '].intercalate (ts.map fun t => [t.spell s]) := by
  induction ts with
  | nil => rfl
  | cons t ts ih =>
    cases ts with
    | nil => rfl
    | cons u ts =>
      have hformat : format s (t :: u :: ts) = t.spell s :: ' ' :: format s (u :: ts) := rfl
      rw [hformat, ih]
      rfl

/-- The listing of a tree is told of to its end, where one value is left. -/
lemma trail_tell_postorder (t : Tree) :
    ∃ depths : List ℕ,
      (tell s t.postorder).trail =
        List.zipWith Event.taken (t.postorder.map (Token.spell s)) depths ∧
      depths.length = t.postorder.length ∧
      (∀ k (hk : k < depths.length), (depths[k] : ℤ) = depth (t.postorder.take (k + 1))) ∧
      depths.getLast? = some 1 := by
  obtain ⟨hfinal, depths, htrail, hlength, hdepths⟩ := trail_of_run s (t.run_postorder s [])
  have hone : depth t.postorder = 1 := by simpa using hfinal.symm
  have hdepth (k : ℕ) (hk : k < depths.length) :
      (depths[k] : ℤ) = depth (t.postorder.take (k + 1)) := by simpa using hdepths k hk
  have hne : depths ≠ [] := by
    intro hnil
    rw [hnil, List.length_nil, eq_comm, List.length_eq_zero_iff] at hlength
    rw [hlength] at hone
    cases hone
  have hlast : (depths.getLast hne : ℤ) = 1 := by
    have hpos := List.length_pos_of_ne_nil hne
    rw [List.getLast_eq_getElem, hdepth, Nat.sub_add_cancel hpos, hlength, List.take_length, hone]
  exact ⟨depths, (Told.trail_bind_untold _ _).trans htrail, hlength, hdepth,
    by rw [List.getLast?_eq_some_getLast hne, Int.ofNat_inj.1 hlast]⟩

end Rpn

/-! ### The outcome -/

section Outcome

variable {s : Symbols} {text : String} {e : Evaluation} {r : Rejection}

/-- What has a value is converted to the listing of a tree. -/
lemma exists_tree_of_evaluate (h : evaluate s text = .ok e) :
    ∃ t : Tree, toRpn s text.toList = .ok t.postorder ∧
      e = ⟨text, String.ofList (Rpn.format s t.postorder), t.value, s⟩ := by
  cases hts : toRpn s text.toList with
  | error f => simp [evaluate_eq, compute_eq, hts, Except.map] at h
  | ok ts =>
    obtain ⟨-, t, -, -, rfl⟩ := tree_of_toRpn hts
    rw [evaluate_eq, compute_of_toRpn hts] at h
    cases h
    exact ⟨t, rfl, rfl⟩

/-- What is rejected is not converted. -/
lemma toRpn_of_evaluate_error (h : evaluate s text = .error r) :
    ∃ f, toRpn s text.toList = .error f := by
  cases hts : toRpn s text.toList with
  | error f => exact ⟨f, rfl⟩
  | ok ts =>
    obtain ⟨-, t, -, -, rfl⟩ := tree_of_toRpn hts
    rw [evaluate_eq, compute_of_toRpn hts] at h
    cases h

/-- The run is told of behind the reading. -/
lemma trail_tellCompute_of_ok {ts : List Token} (h : toRpn s text.toList = .ok ts) :
    (tellCompute s text.toList).trail =
      (sentOff s text).map Event.displaced ++ (Rpn.tell s ts).trail := by
  have hread : ((tellRpn s text.toList).mapError Rejection.malformed).outcome = .ok ts := by
    rw [Told.outcome_mapError, outcome_tellRpn, h]
    rfl
  rw [tellCompute, Told.trail_bind_ok hread]
  congr 1
  · exact trail_tellRpn
  · exact Told.trail_bind_untold ((Rpn.tell s ts).mapError Rejection.unrunnable)
      fun b => .ok (ts, b)

/-- Of a text that is not converted nothing but the reading is told. -/
lemma trail_tellCompute_of_error {f : Malformed} (h : toRpn s text.toList = .error f) :
    (tellCompute s text.toList).trail = (sentOff s text).map Event.displaced := by
  have hread : ((tellRpn s text.toList).mapError Rejection.malformed).outcome =
      .error (.malformed f) := by
    rw [Told.outcome_mapError, outcome_tellRpn, h]
    rfl
  rw [tellCompute, Told.trail_bind_error hread]
  exact trail_tellRpn

/-- The outcome is told of last. -/
lemma trail_of_evaluate_ok (h : evaluate s text = .ok e) :
    trail s text = (tellCompute s text.toList).trail ++ [.evaluated text e.value] := by
  rw [evaluate, tellEvaluation] at h
  rw [trail, tellEvaluation]
  cases hc : (tellCompute s text.toList).outcome with
  | error f =>
    rw [hc] at h
    cases h
  | ok p =>
    rw [hc] at h
    cases h
    rfl

lemma trail_of_evaluate_error (h : evaluate s text = .error r) :
    trail s text = (tellCompute s text.toList).trail ++ [.rejected text r] := by
  rw [evaluate, tellEvaluation] at h
  rw [trail, tellEvaluation]
  cases hc : (tellCompute s text.toList).outcome with
  | error f =>
    rw [hc] at h
    cases h
    rfl
  | ok p =>
    rw [hc] at h
    cases h

end Outcome

/-- **The log tells the evaluation as it went.** First come the operators that precedence sends off
while the text is read, in the order in which they leave.
If the text is an expression, every token of its reverse Polish sequence follows, with the number of
literals less that of binary operators up to it, which is one at the last; the tokens with blanks
between them are the reverse Polish text that is returned, and the operators that were sent off are
some of its operators, in their order. Last comes the outcome that is returned: the value, or else
why the text was rejected and what kind of fault that is. There is nothing else, no parenthesis
above all, and of a text that is rejected no token is told. -/
theorem trail_tells_outcome (s : Symbols) (text : String) :
    (∀ e, evaluate s text = .ok e → ∃ (ts : List Token) (depths : List ℕ),
      toRpn s text.toList = .ok ts ∧
      trail s text = (sentOff s text).map Event.displaced ++
        List.zipWith Event.taken (ts.map (Token.spell s)) depths ++
        [Event.evaluated text e.value] ∧
      depths.length = ts.length ∧
      (∀ k (hk : k < depths.length), (depths[k] : ℤ) = Rpn.depth (ts.take (k + 1))) ∧
      depths.getLast? = some 1 ∧
      e.rpn.toList = [' '].intercalate (ts.map fun t => [t.spell s]) ∧
      (sentOff s text).Sublist (ts.filterMap Token.operator?) ∧
      (trail s text).getLast?.map Event.line =
        some s!"DEBUG expression evaluated expression={text} result={e.value}") ∧
    ∀ r, evaluate s text = .error r →
      (∀ ts, toRpn s text.toList ≠ .ok ts) ∧
      trail s text = (sentOff s text).map Event.displaced ++ [Event.rejected text r] ∧
      (trail s text).getLast?.map Event.line =
        some
          s!"WARN expression rejected expression={text} error={r.message} kind={r.kind.name}" := by
  refine ⟨fun e he => ?_, fun r hr => ?_⟩
  · obtain ⟨t, hts, rfl⟩ := exists_tree_of_evaluate he
    obtain ⟨depths, htaken, hlength, hdepths, hlast⟩ := Rpn.trail_tell_postorder s t
    have htrail : trail s text = (sentOff s text).map Event.displaced ++
        List.zipWith Event.taken (t.postorder.map (Token.spell s)) depths ++
        [Event.evaluated text t.value] := by
      rw [trail_of_evaluate_ok he, trail_tellCompute_of_ok hts, htaken]
    refine ⟨t.postorder, depths, hts, htrail, hlength, hdepths, hlast, ?_,
      sentOff_sublist_of_toRpn hts, ?_⟩
    · rw [String.toList_ofList, Rpn.format_eq_intercalate]
    · rw [htrail, List.getLast?_concat]
      rfl
  · obtain ⟨f, hf⟩ := toRpn_of_evaluate_error hr
    have htrail : trail s text =
        (sentOff s text).map Event.displaced ++ [Event.rejected text r] := by
      rw [trail_of_evaluate_error hr, trail_tellCompute_of_error hf]
    refine ⟨fun ts hts => ?_, htrail, ?_⟩
    · rw [hf] at hts
      cases hts
    · rw [htrail, List.getLast?_concat]
      rfl

/-- One text has a value, and AND is sent off by OR; another one is rejected behind that. -/
theorem trail_tells_outcome_mixed :
    (∃ (ts : List Token) (depths : List ℕ),
      evaluate .standard "T&F|!T" = .ok ⟨"T&F|!T", "T F & T ! |", false, .standard⟩ ∧
      sentOff .standard "T&F|!T" = [.and] ∧
      trail .standard "T&F|!T" = (sentOff .standard "T&F|!T").map Event.displaced ++
        List.zipWith Event.taken (ts.map (Token.spell .standard)) depths ++
        [Event.evaluated "T&F|!T" false] ∧
      depths.length = ts.length ∧ depths.getLast? = some 1 ∧
      (sentOff .standard "T&F|!T").Sublist (ts.filterMap Token.operator?)) ∧
    evaluate .standard "T&F|X" = .error (.malformed (.unrecognized 'X' 4)) ∧
      sentOff .standard "T&F|X" = [.and] ∧
      trail .standard "T&F|X" = (sentOff .standard "T&F|X").map Event.displaced ++
        [Event.rejected "T&F|X" (.malformed (.unrecognized 'X' 4))] := by
  have hvalue : evaluate .standard "T&F|!T" =
      .ok ⟨"T&F|!T", "T F & T ! |", false, .standard⟩ := rfl
  have hreason : evaluate .standard "T&F|X" = .error (.malformed (.unrecognized 'X' 4)) := rfl
  obtain ⟨ts, depths, -, htrail, hlength, -, hlast, -, hsent, -⟩ :=
    (trail_tells_outcome .standard "T&F|!T").1 _ hvalue
  obtain ⟨-, htrail', -⟩ := (trail_tells_outcome .standard "T&F|X").2 _ hreason
  exact ⟨⟨ts, depths, hvalue, rfl, htrail, hlength, hlast, hsent⟩, hreason, rfl, htrail'⟩

example : (trail .standard "T&F|X").map Event.line =
    ["TRACE pop on precedence operator=AND",
      "WARN expression rejected expression=T&F|X error=unrecognized character 'X' at position 4 " ++
        "kind=Lexical"] := by
  rfl

end BoolCalc
