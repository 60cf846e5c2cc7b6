import Parsing.Result

namespace Parsing

namespace Fallible

@[simp] theorem pure_eq_ok_iff {a b : α} : (pure a : Fallible α) = .ok b ↔ b = a := by
  simp [pure, Except.pure, eq_comm]

@[simp] theorem ok_bind {a : α} {f : α → Fallible β} :
    ((.ok a : Fallible α) >>= f) = f a := rfl

@[simp] theorem bind_eq_ok_iff {x : Fallible α} {f : α → Fallible β} {b : β} :
    (x >>= f) = .ok b ↔ ∃ a, x = .ok a ∧ f a = .ok b := by
  cases x with
  | ok a => simp [bind, Except.bind]
  | error fault => simp [bind, Except.bind]

end Fallible

namespace Eval

def Returns (x : Eval α) (ctx : Context) (a : α) : Prop := (x.run ctx).result = .ok a

variable {ctx : Context}

theorem returns_iff_exists_log {x : Eval α} {a : α} :
    x.Returns ctx a ↔ ∃ log, x ctx = ⟨log, .ok a⟩ := by
  constructor
  · intro h
    exact ⟨(x ctx).log, by rw [← show (x ctx).result = .ok a from h]⟩
  · intro h
    rcases h with ⟨log, h⟩
    change (x ctx).result = .ok a
    rw [h]

@[simp] theorem returns_ofContext_iff {f : Context → Fallible α} {a : α} :
    (ofContext f).Returns ctx a ↔ f ctx = .ok a := Iff.rfl

@[simp] theorem returns_pure_iff {a b : α} : (pure a : Eval α).Returns ctx b ↔ b = a := by
  change (Except.ok a : Fallible α) = .ok b ↔ b = a
  simp [eq_comm]

@[simp] theorem returns_liftM_iff {x : Fallible α} {a : α} :
    (liftM x : Eval α).Returns ctx a ↔ x = .ok a := Iff.rfl

@[simp] theorem returns_throw_iff {fault : Fault} {a : α} :
    (throw fault : Eval α).Returns ctx a ↔ False := by
  change (Except.error fault : Fallible α) = .ok a ↔ False
  simp

theorem bind_result {x : Eval α} {f : α → Eval β} :
    ((x >>= f).run ctx).result = (x.run ctx).result >>= fun a => ((f a).run ctx).result := by
  change (Eval.bind x f ctx).result = (x ctx).result >>= fun a => (f a ctx).result
  unfold Eval.bind
  split <;> rename_i heq <;> rw [heq] <;> rfl

@[simp] theorem returns_bind_iff {x : Eval α} {f : α → Eval β} {b : β} :
    (x >>= f).Returns ctx b ↔ ∃ a, x.Returns ctx a ∧ (f a).Returns ctx b := by
  rw [Returns, bind_result]
  exact Fallible.bind_eq_ok_iff

@[simp] theorem returns_map_iff {x : Eval α} {f : α → β} {b : β} :
    (f <$> x).Returns ctx b ↔ ∃ a, x.Returns ctx a ∧ b = f a :=
  returns_bind_iff.trans (exists_congr fun _ => and_congr_right fun _ => returns_pure_iff)

@[simp] theorem returns_ite_iff {c : Prop} [Decidable c] {x y : Eval α} {a : α} :
    (if c then x else y).Returns ctx a ↔ if c then x.Returns ctx a else y.Returns ctx a := by
  split <;> rfl

theorem returns_bind_result_iff {x : Eval (Result α)} {f : Result α → Eval β} {b : β} :
    (x >>= f).Returns ctx b ↔
      (∃ e, x.Returns ctx (.error e) ∧ (f (.error e)).Returns ctx b) ∨
      (∃ r, x.Returns ctx (.ok r) ∧ (f (.ok r)).Returns ctx b) := by
  rw [returns_bind_iff]
  constructor
  · intro h
    rcases h with ⟨e | r, hx, hf⟩
    · exact .inr ⟨_, hx, hf⟩
    · exact .inl ⟨_, hx, hf⟩
  · intro h
    rcases h with ⟨e, hx, hf⟩ | ⟨r, hx, hf⟩
    · exact ⟨_, hx, hf⟩
    · exact ⟨_, hx, hf⟩

-- A record may fail to be made, but it changes nothing about what is returned.
theorem Returns.of_record {r : Fallible Record} {x : Eval α} {a : α}
    (h : (record r >>= fun _ => x).Returns ctx a) : x.Returns ctx a := by
  obtain ⟨_, _, hx⟩ := returns_bind_iff.mp h
  exact hx

-- Walking a list whose steps depend on the context alone.
theorem foldlM_result {f : Context → β → α → Fallible β} {as : List α} {b : β} :
    ((as.foldlM (fun b a => ofContext fun ctx => f ctx b a) b : Eval β).run ctx).result =
      as.foldlM (f ctx) b := by
  induction as generalizing b with
  | nil => rfl
  | cons a as ih =>
    rw [List.foldlM_cons, List.foldlM_cons, bind_result]
    exact bind_congr fun c => ih

section Loop

variable {step : σ → Eval (σ ⊕ β)} {a next : σ} {b : β}

-- One more step changes nothing about how a loop ends.
theorem iterate_result_of_inl (hstep : (step a).Returns ctx (.inl next)) :
    ((iterate step a : Eval β).run ctx).result = ((iterate step next : Eval β).run ctx).result := by
  obtain ⟨log, heq⟩ := returns_iff_exists_log.mp hstep
  change (((step a ctx).resume? step ctx).getD ⟨[], .error .endless⟩).result =
    (((step next ctx).resume? step ctx).getD ⟨[], .error .endless⟩).result
  rw [heq, Outcome.resume?, ReaderT.run]
  cases (step next ctx).resume? step ctx <;> rfl

theorem iterate_returns_of_inl (hstep : (step a).Returns ctx (.inl next))
    (hrest : (iterate step next).Returns ctx b) : (iterate step a).Returns ctx b :=
  (iterate_result_of_inl hstep).trans hrest

theorem iterate_returns_of_inr (hstep : (step a).Returns ctx (.inr b)) :
    (iterate step a).Returns ctx b := by
  obtain ⟨log, heq⟩ := returns_iff_exists_log.mp hstep
  change (((step a ctx).resume? step ctx).getD ⟨[], .error .endless⟩).result = .ok b
  rw [heq, Outcome.resume?]
  rfl

end Loop

end Eval

namespace Tokens

theorem length_eq_ok_iff {ts : Tokens} {n : Nat} :
    ts.length = .ok n ↔ ts.form ≠ .unsized ∧ n = ts.size := by
  unfold length
  split <;> simp_all [pure, Except.pure, eq_comm]

end Tokens

-- Where the last of `tokens` ends, if the token before them ended at `pos`.
def SourceMap.stopAfter (maps : Registry SourceMap) (map : SourceMap) (tokens : List Value)
    (pos : Position) : Fallible Position :=
  tokens.foldlM (fun pos token => map.stopOf maps token pos) pos

namespace State

variable {ctx : Context} {s next : State}

theorem isAtEnd_eq_ok_iff {b : Bool} :
    s.isAtEnd = .ok b ↔ s.input.form ≠ .unsized ∧ b = decide (s.input.size ≤ s.offset) := by
  simp only [isAtEnd, Fallible.bind_eq_ok_iff, Tokens.length_eq_ok_iff, Fallible.pure_eq_ok_iff]
  constructor
  · intro h
    rcases h with ⟨_, ⟨hform, rfl⟩, rfl⟩
    exact ⟨hform, rfl⟩
  · intro h
    rcases h with ⟨hform, rfl⟩
    exact ⟨_, ⟨hform, rfl⟩, rfl⟩

theorem consume_returns_iff {token : Value} :
    (s.consume token).Returns ctx next ↔ ∃ pos, s.map.stopOf ctx.maps token s.pos = .ok pos ∧
      next = { s with offset := s.offset + 1, pos } := by
  simp only [consume, stopOf, Eval.returns_bind_iff, Eval.returns_ofContext_iff,
    Eval.returns_pure_iff]

theorem consumeAll_result {tokens : List Value} :
    ((s.consumeAll tokens).run ctx).result = (do
      let pos ← s.map.stopAfter ctx.maps tokens s.pos
      return { s with offset := s.offset + tokens.length, pos }) := by
  rw [consumeAll, Eval.bind_result]
  exact congrArg (· >>= _) Eval.foldlM_result

theorem consumeAll_returns_iff {tokens : List Value} :
    (s.consumeAll tokens).Returns ctx next ↔
      ∃ pos, s.map.stopAfter ctx.maps tokens s.pos = .ok pos ∧
        next = { s with offset := s.offset + tokens.length, pos } := by
  rw [Eval.Returns, consumeAll_result]
  simp only [Fallible.bind_eq_ok_iff, Fallible.pure_eq_ok_iff]

theorem consumeAll_nil_returns_iff : (s.consumeAll []).Returns ctx next ↔ next = s := by
  rw [consumeAll_returns_iff]
  simp [SourceMap.stopAfter]

theorem consumeAll_cons_returns_iff {token : Value} {tokens : List Value} :
    (s.consumeAll (token :: tokens)).Returns ctx next ↔
      ∃ pos, s.map.stopOf ctx.maps token s.pos = .ok pos ∧
        (consumeAll { s with offset := s.offset + 1, pos } tokens).Returns ctx next := by
  simp only [consumeAll_returns_iff, SourceMap.stopAfter, List.foldlM_cons,
    Fallible.bind_eq_ok_iff, List.length_cons, Nat.add_right_comm _ 1]
  constructor
  · rintro ⟨last, ⟨pos, hpos, hlast⟩, rfl⟩
    exact ⟨pos, hpos, last, hlast, rfl⟩
  · rintro ⟨pos, hpos, last, hlast, rfl⟩
    exact ⟨last, ⟨pos, hpos, hlast⟩, rfl⟩

theorem unexpected_returns_iff {expected : List Value} {m : Message} :
    (s.unexpected expected).Returns ctx m ↔
      (s.isAtEnd = .ok true ∧ m = ⟨s.offset, s.pos, .eof, expected⟩) ∨
      (s.isAtEnd = .ok false ∧ ∃ token start text, s.token = .ok token ∧
        s.map.startOf ctx.maps token s.pos = .ok start ∧ token.text = .ok text ∧
        m = ⟨s.offset, start, .text text, expected⟩) := by
  simp only [unexpected, startOf, Eval.returns_bind_iff, Eval.returns_liftM_iff,
    Eval.returns_ite_iff, Eval.returns_pure_iff, Eval.returns_ofContext_iff]
  constructor
  · intro h
    rcases h with ⟨b, hb, h⟩
    cases b with
    | true => exact .inl ⟨hb, h⟩
    | false =>
      obtain ⟨token, htoken, start, hstart, text, htext, rfl⟩ := h
      exact .inr ⟨hb, token, start, text, htoken, hstart, htext, rfl⟩
  · intro h
    rcases h with ⟨hb, rfl⟩ | ⟨hb, token, start, text, htoken, hstart, htext, rfl⟩
    · exact ⟨true, hb, rfl⟩
    · exact ⟨false, hb, token, htoken, start, hstart, text, htext, rfl⟩

end State

end Parsing
