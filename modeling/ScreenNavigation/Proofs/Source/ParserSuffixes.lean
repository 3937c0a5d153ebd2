import ScreenNavigation.Proofs.Source.PathTokens

/-! What readers leave. A reader never puts tokens back, so what it leaves is the end of what it was given. -/
namespace ScreenNavigation.Source.Parser

/-- The reader leaves an end of its tokens. -/
def Leaves {α : Type} (x : Parser α) : Prop :=
  ∀ ⦃s t : Input⦄ ⦃a : α⦄, x s = .ok (a, t) → t.rest <:+ s.rest

namespace Leaves

variable {α β : Type}

theorem bind {x : Parser α} {f : α → Parser β} (hx : Leaves x) (hf : ∀ a, Leaves (f a)) :
    Leaves (x >>= f) := fun s t b h => by
  obtain ⟨a, u, first, second⟩ := bind_eq_ok.mp h
  exact (hf a second).trans (hx first)

theorem pure (a : α) : Leaves (pure a : Parser α) := fun s t b h => by
  obtain ⟨_, rfl⟩ := pure_eq_ok.mp h
  exact List.suffix_rfl

theorem throw (f : SyntaxFault) : Leaves (throw f : Parser α) := fun s t a h => by cases h

theorem failWith (choices : List String) : Leaves (failWith choices : Parser α) :=
  fun _ _ _ h => absurd h failWith_ne_ok

theorem tokens : Leaves tokens := fun s t a h => by
  cases h
  exact List.suffix_rfl

theorem drop (n : Nat) : Leaves (drop n) := fun s t a h => by
  rw [drop_eq] at h
  cases h
  exact List.drop_suffix n s.rest

theorem map (f : α → β) {x : Parser α} (hx : Leaves x) : Leaves (f <$> x) := fun s t b h => by
  rw [map_eq_pure_bind] at h
  exact hx.bind (fun _ => pure _) h

theorem ite {c : Prop} [Decidable c] {x y : Parser α} (hx : Leaves x) (hy : Leaves y) :
    Leaves (if c then x else y) := by
  split
  · exact hx
  · exact hy

theorem atMarks (marks : String) : Leaves (atMarks marks) := tokens.bind fun _ => pure _

theorem takeMarks (marks : String) : Leaves (takeMarks marks) :=
  (atMarks marks).bind fun _ => ite ((drop _).bind fun _ => pure _) (pure _)

theorem expectMarks (marks : String) : Leaves (expectMarks marks) :=
  (takeMarks marks).bind fun _ => ite (throw _) (pure _)

theorem atWord (word : String) : Leaves (atWord word) :=
  tokens.bind fun ts => by
    split
    · exact pure _
    · exact pure _

theorem takeWord (word : String) : Leaves (takeWord word) :=
  (atWord word).bind fun _ => ite ((drop _).bind fun _ => pure _) (pure _)

theorem takeLifetime? : Leaves takeLifetime? :=
  tokens.bind fun ts => by
    split
    · exact (drop 1).bind fun _ => pure _
    · exact pure _

theorem atLifetime : Leaves atLifetime :=
  tokens.bind fun ts => by
    split
    · exact pure _
    · exact pure _

theorem atGroup (d : Delimiter) : Leaves (atGroup d) :=
  tokens.bind fun ts => by
    split
    · exact pure _
    · exact pure _

theorem atConstant : Leaves atConstant :=
  tokens.bind fun _ => (atGroup _).bind fun _ => pure _

/-- Whatever the reader of its content does, a group is left behind as a whole. -/
theorem inGroup (d : Delimiter) (what : String) (content : Parser α) : Leaves (inGroup d what content) :=
  fun s t a h => by
    obtain ⟨ts, u, read, taken⟩ := bind_eq_ok.mp h
    rw [tokens_eq] at read
    cases read
    cases first : s.rest with
    | nil =>
      simp only [first] at taken
      exact absurd taken failWith_ne_ok
    | cons head after =>
      simp only [first] at taken
      cases head with
      | group e inner =>
        dsimp only at taken
        split at taken
        · obtain ⟨_, _, _, taken⟩ := bind_eq_ok.mp taken
          obtain ⟨_, _, _, taken⟩ := bind_eq_ok.mp taken
          obtain ⟨a', v, _, taken⟩ := bind_eq_ok.mp taken
          obtain ⟨_, _, _, taken⟩ := bind_eq_ok.mp taken
          obtain ⟨_, w, put, taken⟩ := bind_eq_ok.mp taken
          cases put
          obtain ⟨_, rfl⟩ := pure_eq_ok.mp taken
          exact List.suffix_cons _ _
        · exact absurd taken failWith_ne_ok
      | word | lifetime | literal | mark => exact absurd taken failWith_ne_ok

theorem identifier : Leaves identifier := fun s t w h => by
  obtain ⟨rest, before, after⟩ := identifier_ok h
  rw [before, after]
  exact List.suffix_cons _ _

theorem attributes (fuel : Nat) : Leaves (attributes fuel) := by
  induction fuel with
  | zero => exact throw _
  | succ fuel ih =>
    refine tokens.bind fun ts => ?_
    split
    · exact (drop _).bind fun _ => ih.bind fun _ => pure _
    · exact pure _

theorem outlived (fuel : Nat) : Leaves (outlived fuel) := by
  induction fuel with
  | zero => exact throw _
  | succ fuel ih =>
    refine (atMarks _).bind fun _ => (atMarks _).bind fun _ =>
      ite (pure _) (takeLifetime?.bind fun name => ?_)
    split
    · exact (takeMarks _).bind fun _ => ite (ih.bind fun _ => pure _) (pure _)
    · exact failWith _

theorem forLifetime (fuel : Nat) : Leaves (forLifetime fuel) := by
  refine (attributes fuel).bind fun _ => takeLifetime?.bind fun name => ?_
  split
  · exact (atMarks _).bind fun _ => (atMarks _).bind fun _ =>
      ite ((drop _).bind fun _ => (outlived fuel).bind fun _ => pure _) (pure _)
  · exact failWith _

theorem forLifetimes (fuel : Nat) : Leaves (forLifetimes fuel) := by
  induction fuel with
  | zero => exact failWith _
  | succ fuel ih =>
    exact (atMarks _).bind fun _ => ite (pure _) <| (forLifetime fuel).bind fun _ =>
      (atMarks _).bind fun _ => ite (pure _) <| (expectMarks _).bind fun _ => ih.bind fun _ => pure _

theorem boundLifetimes? (fuel : Nat) : Leaves (boundLifetimes? fuel) :=
  (takeWord _).bind fun _ =>
    ite ((expectMarks _).bind fun _ => (forLifetimes _).bind fun _ => (expectMarks _).bind fun _ => pure _)
      (pure _)

theorem capturedNames (fuel : Nat) : Leaves (capturedNames fuel) := by
  induction fuel with
  | zero => exact throw _
  | succ fuel ih =>
    refine tokens.bind fun ts => ?_
    split
    · exact ite ((drop _).bind fun _ => (takeMarks _).bind fun _ => ite (ih.bind fun _ => pure _) (pure _))
        (pure _)
    · exact pure _

theorem captured (fuel : Nat) : Leaves (captured fuel) :=
  (drop _).bind fun _ => (expectMarks _).bind fun _ => (capturedNames fuel).bind fun _ =>
    (expectMarks _).bind fun _ => pure _

theorem inputName? (first : Bool) : Leaves (inputName? first) :=
  tokens.bind fun ts => by
    split
    · exact ite ((drop _).bind fun _ => pure _) (pure _)
    · exact pure _

theorem variadic? (attributes : Attributes) : Leaves (variadic? attributes) := by
  refine tokens.bind fun ts => ite ((drop _).bind fun _ => (takeMarks _).bind fun _ => pure _) ?_
  split
  · exact ite ((drop _).bind fun _ => (takeMarks _).bind fun _ => pure _) (pure _)
  · exact pure _

/-- What is kept as it is written is taken up to its end. -/
theorem orVerbatim {r : Parser Constant} (h : Leaves r) : Leaves (orVerbatim r) := fun s t e found => by
  unfold Parser.orVerbatim at found
  split at found
  · rename_i e' u read
    split at found
    · cases found
      exact h read
    · cases found
      exact List.nil_suffix
  · split at found
    · cases found
    · cases found
      exact List.nil_suffix

theorem commaList {item : Parser α} (h : Leaves item) (fuel : Nat) : Leaves (commaList item fuel) := by
  induction fuel with
  | zero => exact throw _
  | succ fuel ih =>
    exact tokens.bind fun _ => ite (pure _) <| h.bind fun _ => tokens.bind fun _ => ite (pure _) <|
      (expectMarks _).bind fun _ => ih.bind fun _ => pure _

theorem takeOperator? (texts : List String) : Leaves (takeOperator? texts) := by
  unfold Parser.takeOperator?
  refine tokens.bind fun ts => ?_
  split
  · exact (drop _).bind fun _ => pure _
  · exact pure _

theorem literal {ts rest : List Token} {text : String} (h : literal? ts = some (text, rest)) :
    rest <:+ ts := by
  unfold literal? at h
  split at h
  · cases h
    exact List.suffix_cons _ _
  · split at h
    · cases h
      exact (List.suffix_cons _ _).trans (List.suffix_cons _ _)
    · cases h
  · cases h
    exact List.suffix_cons _ _
  · cases h
    exact List.suffix_cons _ _
  · cases h

section Segments

variable {segment : Parser Segment} {more : Parser (List Segment)} {angles : Parser Arguments}

theorem pathStep (first : Leaves segment) (behind : Leaves more) : Leaves (pathStep segment more) :=
  (takeMarks _).bind fun _ => first.bind fun _ => behind.bind fun _ => pure _

theorem moreSegmentsStep (first : Leaves segment) (behind : Leaves more) :
    Leaves (moreSegmentsStep segment more) :=
  tokens.bind fun _ => ite ((drop _).bind fun _ => first.bind fun _ => behind.bind fun _ => pure _) (pure _)

theorem segmentStep (behind : Leaves angles) : Leaves (segmentStep angles) := by
  refine tokens.bind fun ts => ?_
  split
  · refine ite ((drop _).bind fun _ => pure _) (ite ?_ ?_)
    · exact ((drop _).bind fun _ => pure _).bind fun _ => ite (behind.bind fun _ => pure _) (pure _)
    · exact identifier.bind fun _ => ite (behind.bind fun _ => pure _) (pure _)
  · exact failWith _

theorem segmentBy {angles : Nat → Parser Arguments} (behind : ∀ fuel, Leaves (angles fuel)) (fuel : Nat) :
    Leaves (segmentBy angles fuel) := by
  cases fuel with
  | zero => exact throw _
  | succ fuel => exact segmentStep (behind fuel)

end Segments

end Leaves

/-- With this fuel all readers of paths, types and constants leave an end of their tokens. -/
structure AllLeave (fuel : Nat) : Prop where
  path : Leaves (path fuel)
  moreSegments : Leaves (moreSegments fuel)
  segment : Leaves (segment fuel)
  angleArguments : Leaves (angleArguments fuel)
  arguments : Leaves (arguments fuel)
  argument : Leaves (argument fuel)
  constantArgument : Leaves (constantArgument fuel)
  constraintBounds : Leaves (constraintBounds fuel)
  bound : ∀ hidden, Leaves (bound hidden fuel)
  traitBound : ∀ p, Leaves (traitBound p fuel)
  returned : Leaves (returned fuel)
  types : Leaves (types fuel)
  bounds : ∀ hidden plus, Leaves (bounds hidden plus fuel)
  type : ∀ plus, Leaves (type plus fuel)
  parenthesized : ∀ plus, Leaves (parenthesized plus fuel)
  pathType : ∀ lifetimes plus, Leaves (pathType lifetimes plus fuel)
  qualifiedType : Leaves (qualifiedType fuel)
  functionType : ∀ lifetimes, Leaves (functionType lifetimes fuel)
  functionInputs : ∀ first, Leaves (functionInputs first fuel)
  constant : Leaves (constant fuel)
  operations : ∀ left, Leaves (operations left fuel)
  operand : Leaves (operand fuel)

namespace AllLeave

variable {fuel : Nat} (all : AllLeave fuel)

include all

private theorem angleArguments_succ : Leaves (Parser.angleArguments (fuel + 1)) := by
  rw [Parser.angleArguments]
  exact (Leaves.takeMarks _).bind fun _ => (Leaves.expectMarks _).bind fun _ => all.arguments.bind fun _ =>
    (Leaves.expectMarks _).bind fun _ => .pure _

private theorem arguments_succ : Leaves (Parser.arguments (fuel + 1)) := by
  rw [Parser.arguments]
  exact (Leaves.atMarks _).bind fun _ => .ite (.pure _) <| all.argument.bind fun _ =>
    (Leaves.atMarks _).bind fun _ => .ite (.pure _) <| (Leaves.expectMarks _).bind fun _ =>
      all.arguments.bind fun _ => .pure _

private theorem argument_succ : Leaves (Parser.argument (fuel + 1)) := by
  rw [Parser.argument]
  refine Leaves.tokens.bind fun _ => Leaves.atLifetime.bind fun _ =>
    .ite (Leaves.takeLifetime?.bind fun _ => .pure _) <| Leaves.atConstant.bind fun _ =>
      .ite (all.constantArgument.bind fun _ => .pure _) <| (all.type true).bind fun t => ?_
  split
  · exact (Leaves.takeMarks _).bind fun _ => .ite
      (Leaves.atConstant.bind fun _ => .ite (all.constantArgument.bind fun _ => .pure _)
        ((all.type true).bind fun _ => .pure _))
      ((Leaves.takeMarks _).bind fun _ => .ite (all.constraintBounds.bind fun _ => .pure _) (.pure _))
  · exact .pure _

omit all in
private theorem constantArgument_succ : Leaves (Parser.constantArgument (fuel + 1)) := by
  rw [Parser.constantArgument]
  intro s t a h
  obtain ⟨ts, u, read, taken⟩ := bind_eq_ok.mp h
  rw [tokens_eq] at read
  cases read
  cases found : literal? s.rest with
  | some p =>
    obtain ⟨text, rest⟩ := p
    simp only [found] at taken
    obtain ⟨_, v, moved, taken⟩ := bind_eq_ok.mp taken
    cases moved
    obtain ⟨_, rfl⟩ := pure_eq_ok.mp taken
    exact Leaves.literal found
  | none =>
    simp only [found] at taken
    exact Leaves.inGroup _ _ _ taken

private theorem constraintBounds_succ : Leaves (Parser.constraintBounds (fuel + 1)) := by
  rw [Parser.constraintBounds]
  exact (Leaves.atMarks _).bind fun _ => (Leaves.atMarks _).bind fun _ => .ite (.pure _) <|
    (all.bound false).bind fun _ => (Leaves.takeMarks _).bind fun _ =>
      .ite (all.constraintBounds.bind fun _ => .pure _) (.pure _)

private theorem bound_succ (hidden : Bool) : Leaves (Parser.bound hidden (fuel + 1)) := by
  rw [Parser.bound]
  refine Leaves.takeLifetime?.bind fun name => ?_
  split
  · exact .pure _
  · exact (Leaves.atWord _).bind fun _ => .ite (.captured fuel) <| (Leaves.atGroup _).bind fun _ =>
      .ite (.inGroup _ _ _) (all.traitBound false)

private theorem returned_succ : Leaves (Parser.returned (fuel + 1)) := by
  rw [Parser.returned]
  exact (Leaves.takeMarks _).bind fun _ => .ite ((all.type false).bind fun _ => .pure _) (.pure _)

private theorem types_succ : Leaves (Parser.types (fuel + 1)) := by
  rw [Parser.types]
  exact .commaList (all.type true) _

private theorem bounds_succ (hidden plus : Bool) : Leaves (Parser.bounds hidden plus (fuel + 1)) := by
  simp only [Parser.bounds]
  refine (all.bound hidden).bind fun _ => (Leaves.atMarks _).bind fun _ => .ite ?_ (.pure _)
  exact (Leaves.drop _).bind fun _ => Leaves.tokens.bind fun _ =>
    .ite ((all.bounds hidden plus).bind fun _ => .pure _) (.pure _)

private theorem traitBound_succ (p : Bool) : Leaves (Parser.traitBound p (fuel + 1)) := by
  simp only [Parser.traitBound]
  refine (Leaves.boundLifetimes? _).bind fun _ => (Leaves.takeMarks _).bind fun _ =>
    .ite ((Leaves.boundLifetimes? _).bind fun _ => all.path.bind fun q => ?_)
      ((Leaves.pure _).bind fun _ => all.path.bind fun q => ?_)
  all_goals
    split
    · exact Leaves.tokens.bind fun _ => .ite
        ((Leaves.takeMarks _).bind fun _ => (Leaves.inGroup _ _ _).bind fun _ =>
          all.returned.bind fun _ => .pure _) (.pure _)
    · exact .pure _

private theorem type_succ (plus : Bool) : Leaves (Parser.type plus (fuel + 1)) := by
  simp only [Parser.type]
  refine (Leaves.boundLifetimes? _).bind fun _ => Leaves.tokens.bind fun ts =>
    .ite ((Leaves.failWith _).bind fun _ => ?_) ?_
  all_goals
    split
    · exact all.parenthesized plus
    · exact .inGroup _ _ _
    · exact (all.bounds false plus).bind fun _ => .ite (.pure _) (.throw _)
    · exact .ite (all.functionType _) <| .ite (all.pathType _ _) <|
        .ite ((Leaves.drop _).bind fun _ => (all.bounds false plus).bind fun _ =>
          .ite (.pure _) (.throw _)) <|
        .ite ((Leaves.drop _).bind fun _ => (all.bounds true plus).bind fun _ =>
          .ite (.pure _) (.throw _)) <|
        .ite ((Leaves.drop _).bind fun _ => .pure _) (.failWith _)
    · exact .ite (all.pathType _ _) <| .ite all.qualifiedType <|
        .ite ((Leaves.drop _).bind fun _ => (Leaves.takeWord _).bind fun _ =>
          .ite ((all.type false).bind fun _ => .pure _) ((Leaves.takeWord _).bind fun _ =>
            .ite ((all.type false).bind fun _ => .pure _) (.failWith _))) <|
        .ite ((Leaves.drop _).bind fun _ => Leaves.takeLifetime?.bind fun _ =>
          (Leaves.takeWord _).bind fun _ => (all.type false).bind fun _ => .pure _) <|
        .ite ((Leaves.drop _).bind fun _ => .pure _) (.failWith _)

private theorem parenthesized_succ (plus : Bool) : Leaves (Parser.parenthesized plus (fuel + 1)) := by
  simp only [Parser.parenthesized]
  refine (Leaves.inGroup _ _ _).bind fun t => ?_
  split
  · exact (Leaves.takeMarks _).bind fun _ => .ite ((all.bounds false true).bind fun _ => .pure _) (.pure _)
  · split
    · exact (Leaves.atMarks _).bind fun _ => .ite
        ((Leaves.drop _).bind fun _ => (all.bounds false plus).bind fun _ => .pure _) (.pure _)
    · exact .pure _
  · exact .pure _

private theorem pathType_succ (lifetimes : Option (List ForLifetime)) (plus : Bool) :
    Leaves (Parser.pathType lifetimes plus (fuel + 1)) := by
  simp only [Parser.pathType]
  refine all.path.bind fun p => (Leaves.atMarks _).bind fun _ => (Leaves.atMarks _).bind fun _ => .ite ?_ ?_
  · refine (Leaves.drop _).bind fun _ => Leaves.tokens.bind fun ts => ?_
    split
    · exact (Leaves.drop _).bind fun _ => .pure _
    · exact .failWith _
  · have more (build : List Bound × Bool → Ty) (single : Ty) : Leaves (do
        Parser.drop 1
        if startsBound (← Parser.tokens) then
          let found ← Parser.bounds false plus fuel
          Pure.pure (build found)
        else Pure.pure single) :=
      (Leaves.drop _).bind fun _ => Leaves.tokens.bind fun _ =>
        .ite ((all.bounds false plus).bind fun _ => .pure _) (.pure _)
    exact (Leaves.atMarks _).bind fun _ =>
      .ite ((Leaves.atMarks _).bind fun _ => .ite (more _ _) (.pure _)) (.pure _)

private theorem qualifiedType_succ : Leaves (Parser.qualifiedType (fuel + 1)) := by
  simp only [Parser.qualifiedType]
  refine (Leaves.expectMarks _).bind fun _ => (all.type true).bind fun _ => (Leaves.takeWord _).bind fun _ =>
    .ite ((all.path.map _).bind fun _ => ?_) ((Leaves.pure _).bind fun _ => ?_)
  all_goals
    exact (Leaves.expectMarks _).bind fun _ => (Leaves.expectMarks _).bind fun _ =>
      all.segment.bind fun _ => all.moreSegments.bind fun _ => .pure _

private theorem functionType_succ (lifetimes : Option (List ForLifetime)) :
    Leaves (Parser.functionType lifetimes (fuel + 1)) := by
  simp only [Parser.functionType]
  have inputs (build : List FunctionInput × Bool × Option Variadic → Option Ty → Ty) : Leaves (do
      let found ← Parser.inGroup .parenthesis "parentheses" (Parser.functionInputs true fuel)
      let output ← Parser.returned fuel
      Pure.pure (build found output)) :=
    (Leaves.inGroup _ _ _).bind fun _ => all.returned.bind fun _ => .pure _
  refine (Leaves.takeWord _).bind fun _ => (Leaves.takeWord _).bind fun _ =>
    .ite (Leaves.tokens.bind fun ts => ?_) ((Leaves.pure _).bind fun _ => ?_)
  · split
    · exact (Leaves.drop _).bind fun _ => (Leaves.pure _).bind fun _ => (Leaves.takeWord _).bind fun _ =>
        .ite ((Leaves.throw _).bind fun _ => inputs _) (inputs _)
    · exact (Leaves.pure _).bind fun _ => (Leaves.takeWord _).bind fun _ =>
        .ite ((Leaves.throw _).bind fun _ => inputs _) (inputs _)
  · exact (Leaves.takeWord _).bind fun _ => .ite ((Leaves.throw _).bind fun _ => inputs _) (inputs _)

private theorem functionInputs_succ (first : Bool) : Leaves (Parser.functionInputs first (fuel + 1)) := by
  simp only [Parser.functionInputs]
  refine Leaves.tokens.bind fun _ => .ite (.pure _) <| (Leaves.attributes fuel).bind fun _ =>
    (Leaves.variadic? _).bind fun found => ?_
  split
  · exact .pure _
  · exact (Leaves.inputName? first).bind fun _ => (all.type true).bind fun _ => Leaves.tokens.bind fun _ =>
      .ite (.pure _) <| (Leaves.expectMarks _).bind fun _ =>
        (all.functionInputs false).bind fun _ => .pure _

private theorem constant_succ : Leaves (Parser.constant (fuel + 1)) := by
  rw [Parser.constant]
  exact all.operand.bind fun _ => all.operations _

private theorem operations_succ (left : Constant) : Leaves (Parser.operations left (fuel + 1)) := by
  simp only [Parser.operations]
  refine (Leaves.takeWord _).bind fun _ => .ite ((all.type false).bind fun _ => all.operations _) ?_
  refine (Leaves.takeOperator? _).bind fun op => ?_
  split
  · exact all.operand.bind fun _ => all.operations _
  · exact .pure _

private theorem operand_succ : Leaves (Parser.operand (fuel + 1)) := by
  simp only [Parser.operand]
  refine Leaves.tokens.bind fun ts => ?_
  split
  · exact (Leaves.drop _).bind fun _ => .pure _
  · exact (Leaves.drop _).bind fun _ => .pure _
  · exact (Leaves.drop _).bind fun _ => .pure _
  · exact (Leaves.drop _).bind fun _ => .pure _
  · exact .inGroup _ _ _
  · exact all.constantArgument
  · refine (Leaves.takeOperator? _).bind fun op => ?_
    split
    · exact all.operand.bind fun _ => .pure _
    · exact Leaves.tokens.bind fun _ => .ite (all.path.bind fun _ => .pure _) (.failWith _)

theorem succ : AllLeave (fuel + 1) where
  path := .pathStep all.segment all.moreSegments
  moreSegments := .moreSegmentsStep all.segment all.moreSegments
  segment := .segmentStep all.angleArguments
  angleArguments := all.angleArguments_succ
  arguments := all.arguments_succ
  argument := all.argument_succ
  constantArgument := constantArgument_succ
  constraintBounds := all.constraintBounds_succ
  bound := all.bound_succ
  traitBound := all.traitBound_succ
  returned := all.returned_succ
  types := all.types_succ
  bounds := all.bounds_succ
  type := all.type_succ
  parenthesized := all.parenthesized_succ
  pathType := all.pathType_succ
  qualifiedType := all.qualifiedType_succ
  functionType := all.functionType_succ
  functionInputs := all.functionInputs_succ
  constant := all.constant_succ
  operations := all.operations_succ
  operand := all.operand_succ

omit all in
theorem zero : AllLeave 0 where
  path := .throw _
  moreSegments := .throw _
  segment := .throw _
  angleArguments := .throw _
  arguments := .throw _
  argument := .throw _
  constantArgument := .throw _
  constraintBounds := .throw _
  bound _ := .throw _
  traitBound _ := .throw _
  returned := .throw _
  types := .throw _
  bounds _ _ := .throw _
  type _ := .throw _
  parenthesized _ := .throw _
  pathType _ _ := .throw _
  qualifiedType := .throw _
  functionType _ := .throw _
  functionInputs _ := .throw _
  constant := .throw _
  operations _ := .throw _
  operand := .throw _

end AllLeave

end ScreenNavigation.Source.Parser
