import Mathlib.Data.List.TakeWhile
import Polystore.Json.Document

/-! Where the reading of a JSON text stops for another reason than the form of the text. That is
where a value may stand, and there an integer of too many digits does, or a list or an object
begins within too many others.
-/

namespace Polystore.Json

/-- A failure that lies in a limit, not in the form of a text. -/
def Failure.OfLimit : Failure → Prop
  | .malformed _ _ => False
  | .tooManyDigits _ => True
  | .tooDeep _ => True

-----------------------------------------------------------------------------------------
-- Tokens in front of a text
-----------------------------------------------------------------------------------------

namespace Token

/-- A text begins with an integer of so many digits: perhaps a minus, and digits of which the first
is not zero, behind which there is neither a digit nor a fraction nor an exponent.
-/
def IntegerAhead (count : Nat) (cs : List Char) : Prop :=
  ∃ sign digits behind,
    cs = sign ++ digits ++ behind
    ∧ (sign = [] ∨ sign = ['-'])
    ∧ (∀ d ∈ digits, d.isDigit)
    ∧ digits.head? ≠ some '0'
    ∧ digits.length = count
    ∧ (∀ c ∈ behind.head?, ¬ c.isDigit)
    ∧ digitsBehind '.' behind = []
    ∧ exponent? behind = none

/-- What a token opens. -/
def opens? : Token → Option Container
  | .openList => some .list
  | .openObject => some .object
  | _ => none

/-- An escape fails by its form. -/
theorem escape_failure {start position : Nat} {cs : List Char} {failure : Failure}
    (h : escape start position cs = .error failure)
    : ¬ failure.OfLimit := by
  unfold escape at h
  repeat' split at h
  all_goals
    first
    | cases h
      exact id
    | cases h

/-- A text fails by its form, by induction on its characters. -/
theorem textFrom_failure {start skip position : Nat} {read cs : List Char} {failure : Failure}
    (h : textFrom start read skip position cs = .error failure)
    : ¬ failure.OfLimit := by
  induction cs generalizing read skip position with
  | nil =>
      cases skip <;> cases h <;> exact id
  | cons c rest ih =>
      cases skip with
      | succ skip => exact ih h
      | zero =>
          rw [textFrom] at h
          split at h
          · cases h
          · split at h
            · split at h
              next broken =>
                cases h
                exact escape_failure broken
              · exact ih h
            · split at h
              · cases h
                exact id
              · exact ih h

/-- The front of a text that is taken while a test holds, and what is behind it. -/
theorem takeWhile_eq_iff {p : Char → Bool} {cs front : List Char}
    : cs.takeWhile p = front
      ↔ ∃ behind,
          cs = front ++ behind ∧ (∀ c ∈ front, p c) ∧ ∀ c ∈ behind.head?, ¬ p c := by
  constructor
  · rintro rfl
    refine ⟨cs.dropWhile p, List.takeWhile_append_dropWhile.symm,
      fun c member => List.mem_takeWhile_imp member, fun c first => ?_⟩
    have stops := List.head?_dropWhile_not p cs
    rw [first] at stops
    simpa using stops
  · rintro ⟨behind, rfl, holds, stops⟩
    rw [List.takeWhile_append_of_pos holds]
    cases behind with
    | nil => simp
    | cons c rest => simp [stops c rfl]

/-- A number is broken if it is an integer of too many digits. -/
theorem number?_broken (negative : Bool) {cs : List Char} {failure : Failure} {length : Nat}
    : number? negative cs = some (.brokenNumber failure, length)
      ↔ ∃ digits behind,
          cs = digits ++ behind
          ∧ (∀ d ∈ digits, d.isDigit)
          ∧ digits.head? ≠ some '0'
          ∧ (∀ c ∈ behind.head?, ¬ c.isDigit)
          ∧ digitsBehind '.' behind = []
          ∧ exponent? behind = none
          ∧ digitLimit < digits.length
          ∧ failure = .tooManyDigits digits.length
          ∧ length = digits.length := by
  unfold number?
  split
  next rest =>
    -- A zero is an integer by itself.
    constructor
    · intro broken
      simp only [List.isEmpty_cons, Bool.false_eq_true, if_false] at broken
      split at broken
      · rw [if_neg (by decide)] at broken
        cases broken
      · cases broken
    · rintro ⟨digits, behind, is, _, first, _, _, _, many, _⟩
      cases digits with
      | nil => simp at many
      | cons d digits =>
          cases is
          exact absurd rfl first
  next zero =>
    constructor
    · intro broken
      obtain ⟨behind, is, holds, stops⟩ :=
        takeWhile_eq_iff.mp (rfl : cs.takeWhile Char.isDigit = cs.takeWhile Char.isDigit)
      generalize cs.takeWhile Char.isDigit = digits at broken is holds
      subst is
      have first : digits.head? ≠ some '0' := by
        rintro first
        obtain ⟨digits, rfl⟩ := List.head?_eq_some_iff.mp first
        exact zero _ rfl
      simp only [List.drop_left] at broken
      split at broken
      · cases broken
      · split at broken
        next whole plain =>
          rw [List.isEmpty_iff] at whole
          rw [whole, List.isEmpty_nil, if_pos rfl, List.drop_zero] at plain
          split at broken
          next many =>
            cases broken
            exact ⟨digits, behind, rfl, holds, first, stops, whole, plain, many, rfl, rfl⟩
          · cases broken
        · cases broken
    · rintro ⟨digits, behind, rfl, holds, first, stops, whole, plain, many, rfl, rfl⟩
      have front : (digits ++ behind).takeWhile Char.isDigit = digits :=
        takeWhile_eq_iff.mpr ⟨behind, rfl, holds, stops⟩
      have some : digits.isEmpty = false := by
        cases digits with
        | nil => simp at many
        | cons => rfl
      simp only [front, some, List.drop_left, whole, plain, List.isEmpty_nil, if_true,
        List.drop_zero, if_pos many, Bool.false_eq_true, if_false]

/-- A number is a literal, or broken by a limit. -/
theorem number?_literal {negative : Bool} {cs : List Char} {token : Token} {length : Nat}
    (h : number? negative cs = some (token, length))
    : (∃ v, token = .literal v) ∨ ∃ failure, token = .brokenNumber failure := by
  unfold number? at h
  dsimp only at h
  repeat' split at h
  all_goals cases h
  all_goals
    first
    | exact .inl ⟨_, rfl⟩
    | exact .inr ⟨_, rfl⟩

/-- A word is a literal. -/
theorem word?_literal {cs : List Char} {token : Token} {length : Nat}
    (h : word? cs = some (token, length))
    : ∃ v, token = .literal v := by
  obtain ⟨⟨word, v⟩, _, found⟩ := List.exists_of_findSome?_eq_some h
  dsimp only at found
  split at found
  · cases found
    exact ⟨v, rfl⟩
  · cases found

/-- A text that begins with no mark begins with a literal, with nothing known, or with a number
that is broken by a limit.
-/
theorem scalar_cases (negative : Bool) (digits cs : List Char)
    : let token := (((number? negative digits).or (word? cs)).getD (.unknown, 1)).1
      (∃ v, token = .literal v)
      ∨ token = .unknown
      ∨ ∃ failure length,
          token = .brokenNumber failure
          ∧ number? negative digits = some (.brokenNumber failure, length) := by
  dsimp only
  cases number : number? negative digits with
  | some read =>
      rcases number?_literal number with literal | ⟨failure, broken⟩
      · exact .inl literal
      · refine .inr (.inr ⟨failure, read.2, broken, ?_⟩)
        rw [← broken]
  | none =>
      cases word : word? cs with
      | none => exact .inr (.inl rfl)
      | some read => exact .inl (word?_literal word)

/-- The token behind a minus. -/
theorem first_minus (position : Nat) (rest : List Char)
    : (first position ('-' :: rest)).1
      = (((number? true rest).or (word? ('-' :: rest))).getD (.unknown, 1)).1 := by
  rw [first]
  cases number? true rest with
  | none => rfl
  | some read => rfl

/-- What the first character of a token opens. -/
def openedBy? : Char → Option Container
  | '[' => some .list
  | '\x7b' => some .object
  | _ => none

/-- A token in front of a text opens what its first character does. If it is broken, then by its
form, or it is a number that is broken by a limit.
-/
theorem first_cases (position : Nat) (c : Char) (rest : List Char)
    : (first position (c :: rest)).1.opens? = openedBy? c
      ∧ (∀ failure,
          (first position (c :: rest)).1 = .brokenText failure → ¬ failure.OfLimit)
      ∧ ∀ failure,
          (first position (c :: rest)).1 = .brokenNumber failure
          → ∃ negative digits length,
              (c = '-' ∧ negative = true ∧ digits = rest ∨ negative = false ∧ digits = c :: rest)
              ∧ number? negative digits = some (.brokenNumber failure, length) := by
  have scalar (negative : Bool) (digits cs : List Char)
      : (((number? negative digits).or (word? cs)).getD (.unknown, 1)).1.opens? = none
        ∧ (∀ failure,
            (((number? negative digits).or (word? cs)).getD (.unknown, 1)).1 ≠ .brokenText failure)
        ∧ ∀ failure,
            (((number? negative digits).or (word? cs)).getD (.unknown, 1)).1 = .brokenNumber failure
            → ∃ length, number? negative digits = some (.brokenNumber failure, length) := by
    rcases scalar_cases negative digits cs with ⟨v, is⟩ | is | ⟨failure, length, is, broken⟩ <;>
      rw [is]
    · exact ⟨rfl, nofun, nofun⟩
    · exact ⟨rfl, nofun, nofun⟩
    · refine ⟨rfl, nofun, fun other same => ?_⟩
      cases same
      exact ⟨length, broken⟩
  by_cases minus : c = '-'
  · rw [minus, first_minus]
    obtain ⟨opens, texts, numbers⟩ := scalar true rest ('-' :: rest)
    refine ⟨opens, fun failure is => absurd is (texts failure), fun failure is => ?_⟩
    obtain ⟨length, broken⟩ := numbers failure is
    exact ⟨true, rest, length, .inl ⟨rfl, rfl, rfl⟩, broken⟩
  · unfold first
    split
    · contradiction
    iterate 6
      next is =>
        cases is
        exact ⟨rfl, nofun, nofun⟩
    next is =>
      cases is
      split
      · exact ⟨rfl, nofun, nofun⟩
      next failure broken =>
        refine ⟨rfl, fun other is => ?_, nofun⟩
        cases is
        exact textFrom_failure broken
    next is =>
      cases is
      exact absurd rfl minus
    next noList _ noObject _ _ _ _ _ =>
      obtain ⟨opens, texts, numbers⟩ := scalar false (c :: rest) (c :: rest)
      refine ⟨opens.trans ?_, fun failure is => absurd is (texts failure), fun failure is => ?_⟩
      · unfold openedBy?
        split
        · exact absurd rfl (noList _)
        · exact absurd rfl (noObject _)
        · rfl
      · obtain ⟨length, broken⟩ := numbers failure is
        exact ⟨false, _, length, .inr ⟨rfl, rfl⟩, broken⟩

/-- No blank is the first character of an integer. -/
theorem IntegerAhead.solid {count : Nat} {cs : List Char} (h : IntegerAhead count cs)
    (some : 0 < count)
    : ∃ c rest, cs = c :: rest ∧ ¬ isBlank c := by
  obtain ⟨sign, digits, behind, rfl, rfl | rfl, holds, _, rfl, _⟩ := h
  · cases digits with
    | nil => cases some
    | cons d digits =>
        refine ⟨d, digits ++ behind, rfl, fun blank => ?_⟩
        have digit := holds d List.mem_cons_self
        simp only [isBlank, Bool.or_eq_true, decide_eq_true_eq] at blank
        rcases blank with ((rfl | rfl) | rfl) | rfl <;> contradiction
  · exact ⟨'-', digits ++ behind, rfl, by decide⟩

/-- No blank opens anything. -/
theorem solid_of_opened {c : Char} {container : Container} (h : openedBy? c = some container)
    : ¬ isBlank c := by
  unfold openedBy? at h
  split at h
  · decide
  · decide
  · cases h

/-- A token is broken by a limit where an integer of too many digits stands. -/
theorem first_broken {position : Nat} {cs : List Char} {failure : Failure}
    : (first position cs).1 = .brokenNumber failure
      ↔ ∃ count, IntegerAhead count cs ∧ digitLimit < count ∧ failure = .tooManyDigits count := by
  constructor
  · intro broken
    cases cs with
    | nil => cases broken
    | cons c rest =>
        obtain ⟨negative, digits, length, sign, found⟩ :=
          (first_cases position c rest).2.2 failure broken
        obtain ⟨digits, behind, rfl, holds, first, stops, whole, plain, many, rfl, _⟩ :=
          (number?_broken negative).mp found
        rcases sign with ⟨rfl, _, rfl⟩ | ⟨_, is⟩
        · exact ⟨digits.length, ⟨['-'], digits, behind, rfl, .inr rfl, holds, first, rfl, stops,
            whole, plain⟩, many, rfl⟩
        · exact ⟨digits.length, ⟨[], digits, behind, is.symm, .inl rfl, holds, first, rfl, stops,
            whole, plain⟩, many, rfl⟩
  · rintro ⟨count, ⟨sign, digits, behind, rfl, signs, holds, first, rfl, stops, whole, plain⟩,
      many, rfl⟩
    have found (negative : Bool) := (number?_broken negative).mpr
      ⟨digits, behind, rfl, holds, first, stops, whole, plain, many, rfl, rfl⟩
    rcases signs with rfl | rfl
    · rw [List.nil_append]
      cases digits with
      | nil => simp at many
      | cons d digits =>
          have digit := holds d List.mem_cons_self
          rw [List.cons_append] at found ⊢
          unfold Token.first
          split
          · contradiction
          iterate 8
            next is =>
              cases is
              contradiction
          · rw [found]
            rfl
    · simp only [List.cons_append, List.nil_append, first_minus, found]
      rfl

end Token

-----------------------------------------------------------------------------------------
-- Places of reading
-----------------------------------------------------------------------------------------

namespace Place

variable {nesting : Nat}

/-- Whether a value may stand at a place. -/
def TakesValue (place : Place) : Prop :=
  place.expects matches .value ∨ place.expects matches .valueOrClose

/-- A limit is met at a token where a value may stand. -/
theorem onValue_limit {position : Nat} {frames : List Frame} {token : Token} {failure : Failure}
    (limit : failure.OfLimit) (texts : ∀ other, token = .brokenText other → ¬ other.OfLimit)
    : onValue nesting position frames token = .error failure
      ↔ token = .brokenNumber failure
        ∨ ∃ container,
            token.opens? = some container
            ∧ nesting ≤ frames.length
            ∧ failure = .tooDeep container := by
  have opening (container : Container)
      : openFrame nesting container frames = .error failure
        ↔ nesting ≤ frames.length ∧ failure = .tooDeep container := by
    unfold openFrame
    split
    next deep => simp [deep, eq_comm]
    next shallow => cases container <;> simp [shallow]
  have form (cause : Cause) : Failure.malformed cause position ≠ failure := by
    rintro rfl
    exact limit
  cases token <;> simp [onValue, Token.opens?, opening, form]
  case brokenText other =>
    rintro rfl
    exact texts _ rfl limit

/-- No limit is met where a member's name may stand. -/
theorem onName_form {position : Nat} {frames : List Frame} {token : Token} {failure : Failure}
    (texts : ∀ other, token = .brokenText other → ¬ other.OfLimit)
    (h : onName position frames token = .error failure)
    : ¬ failure.OfLimit := by
  unfold onName at h
  split at h
  · split at h <;> cases h
    exact id
  · cases h
    exact texts _ rfl
  · cases h
    exact id

/-- No limit is met where a list or an object goes on or ends. -/
theorem onComma_form {position : Nat} {frames : List Frame} {token : Token} {failure : Failure}
    (h : onComma position frames token = .error failure)
    : ¬ failure.OfLimit := by
  unfold onComma at h
  split at h <;> cases h
  exact id

/-- A limit is met where a value may stand. -/
theorem step_limit {place : Place} {position : Nat} {token : Token} {failure : Failure}
    (limit : failure.OfLimit) (texts : ∀ other, token = .brokenText other → ¬ other.OfLimit)
    : place.step nesting position token = .error failure
      ↔ place.TakesValue
        ∧ (token = .brokenNumber failure
            ∨ ∃ container,
                token.opens? = some container
                ∧ nesting ≤ place.frames.length
                ∧ failure = .tooDeep container) := by
  obtain ⟨expects, frames⟩ := place
  unfold step TakesValue
  cases expects with
  | value => simp only [true_or, true_and, onValue_limit limit texts]
  | valueOrClose =>
      simp only [or_true, true_and]
      split
      · simp [Token.opens?]
      · exact onValue_limit limit texts
  | nameOrClose =>
      simp only [Bool.false_eq_true, or_self, false_and, iff_false]
      split
      · nofun
      · exact fun h => onName_form texts h limit
  | name =>
      simp only [Bool.false_eq_true, or_self, false_and, iff_false]
      exact fun h => onName_form texts h limit
  | colon =>
      simp only [Bool.false_eq_true, or_self, false_and, iff_false]
      split
      · nofun
      · rintro ⟨⟩
        exact limit
  | commaOrClose =>
      simp only [Bool.false_eq_true, or_self, false_and, iff_false]
      exact fun h => onComma_form h limit
  | finish =>
      simp only [Bool.false_eq_true, or_self, false_and, iff_false]
      rintro ⟨⟩
      exact limit

/-- The reading of a text gets from a place to another one, in front of what is left. Blanks change
no place, and tokens take as many characters as they have.
-/
inductive Leads (nesting : Nat) (target : Place) (stop : Nat) (left : List Char)
    : Place → Nat → List Char → Prop where
  | here : Leads nesting target stop left target stop left
  | blank {place : Place} {position : Nat} {c : Char} {rest : List Char}
      (blank : Token.isBlank c) (on : Leads nesting target stop left place (position + 1) rest)
    : Leads nesting target stop left place position (c :: rest)
  | token {place next : Place} {position : Nat} {c : Char} {rest : List Char}
      (solid : ¬ Token.isBlank c)
      (fits : place.step nesting position (Token.first position (c :: rest)).1 = .ok next)
      (on
        : let more := (Token.first position (c :: rest)).2 - 1
          Leads nesting target stop left next (position + 1 + more) (rest.drop more))
    : Leads nesting target stop left place position (c :: rest)

/-- A place at which reading a token meets a limit. -/
def Meets (nesting : Nat) (failure : Failure) (place : Place) (position : Nat) (cs : List Char)
    : Prop :=
  ∃ c rest,
    cs = c :: rest
    ∧ ¬ Token.isBlank c
    ∧ place.step nesting position (Token.first position cs).1 = .error failure

/-- The reading of a text fails by a limit where it gets to a place that meets it, by induction on
the characters. Some of them may belong to the token before.
-/
theorem readFrom_limit {failure : Failure} (limit : failure.OfLimit) {place : Place}
    {skip position : Nat} {cs : List Char}
    : place.readFrom nesting skip position cs = .error failure
      ↔ ∃ target stop left,
          Leads nesting target stop left place (position + skip) (cs.drop skip)
          ∧ Meets nesting failure target stop left := by
  induction cs generalizing place skip position with
  | nil =>
      rw [List.drop_nil]
      constructor
      · intro failed
        rw [readFrom, finish] at failed
        split at failed <;> cases failed <;> exact limit.elim
      · rintro ⟨target, stop, left, leads, c, rest, rfl, _⟩
        cases leads
  | cons c rest ih =>
      cases skip with
      | succ skip =>
          rw [readFrom, ih, List.drop_succ_cons, Nat.add_right_comm]
          rfl
      | zero =>
          rw [readFrom, List.drop_zero, Nat.add_zero]
          split
          next blank =>
            rw [ih, Nat.add_zero, List.drop_zero]
            constructor
            · rintro ⟨target, stop, left, leads, meets⟩
              exact ⟨target, stop, left, .blank blank leads, meets⟩
            · rintro ⟨target, stop, left, leads, meets⟩
              cases leads with
              | here =>
                  obtain ⟨_, _, ⟨⟩, solid, _⟩ := meets
                  exact absurd blank solid
              | blank _ on => exact ⟨target, stop, left, on, meets⟩
              | token solid => exact absurd blank solid
          next solid =>
            dsimp only
            cases step : place.step nesting position (Token.first position (c :: rest)).1 with
            | error failed =>
                constructor
                · rintro ⟨⟩
                  exact ⟨place, position, _, .here, c, rest, rfl, solid, step⟩
                · rintro ⟨target, stop, left, leads, meets⟩
                  cases leads with
                  | here =>
                      obtain ⟨_, _, ⟨⟩, _, failed⟩ := meets
                      exact congrArg _ (Except.error.inj (step.symm.trans failed))
                  | blank blank _ => exact absurd blank solid
                  | token _ fits _ => cases step.symm.trans fits
            | ok next =>
                refine ih.trans ⟨?_, ?_⟩
                · rintro ⟨target, stop, left, leads, meets⟩
                  exact ⟨target, stop, left, .token solid step leads, meets⟩
                · rintro ⟨target, stop, left, leads, meets⟩
                  cases leads with
                  | here =>
                      obtain ⟨_, _, ⟨⟩, _, failed⟩ := meets
                      cases step.symm.trans failed
                  | blank blank _ => exact absurd blank solid
                  | token _ fits on =>
                      cases step.symm.trans fits
                      exact ⟨target, stop, left, on, meets⟩

/-- What a place meets at a limit. -/
theorem meets_iff {failure : Failure} (limit : failure.OfLimit) {place : Place} {position : Nat}
    {cs : List Char}
    : Meets nesting failure place position cs
      ↔ place.TakesValue
        ∧ ((∃ count,
              Token.IntegerAhead count cs
              ∧ digitLimit < count
              ∧ failure = .tooManyDigits count)
            ∨ ∃ c container,
                cs.head? = some c
                ∧ Token.openedBy? c = some container
                ∧ nesting ≤ place.frames.length
                ∧ failure = .tooDeep container) := by
  have texts : ∀ other, (Token.first position cs).1 = .brokenText other → ¬ other.OfLimit := by
    cases cs with
    | nil => nofun
    | cons c rest => exact (Token.first_cases position c rest).2.1
  unfold Meets
  simp only [step_limit limit texts, Token.first_broken]
  constructor
  · rintro ⟨c, rest, rfl, _, takes, broken | ⟨container, opens, deep, is⟩⟩
    · exact ⟨takes, .inl broken⟩
    · rw [(Token.first_cases position c rest).1] at opens
      exact ⟨takes, .inr ⟨c, container, rfl, opens, deep, is⟩⟩
  · rintro ⟨takes, ⟨count, ahead, many, is⟩ | ⟨c, container, head, opens, deep, is⟩⟩
    · obtain ⟨c, rest, rfl, solid⟩ := ahead.solid (Nat.zero_lt_of_lt many)
      exact ⟨c, rest, rfl, solid, takes, .inl ⟨count, ahead, many, is⟩⟩
    · obtain ⟨rest, rfl⟩ := List.head?_eq_some_iff.mp head
      refine ⟨c, rest, rfl, Token.solid_of_opened opens, takes, .inr ⟨container, ?_, deep, is⟩⟩
      rwa [(Token.first_cases position c rest).1]

end Place

-----------------------------------------------------------------------------------------
-- Texts within the limits
-----------------------------------------------------------------------------------------

/-- A text in which no integer has too many digits, where a value may stand. -/
def DigitsWithin (nesting : Nat) (cs : List Char) : Prop :=
  ∀ place position left,
    Place.Leads nesting place position left .start 0 cs
    → place.TakesValue
    → ∀ count, Token.IntegerAhead count left → count ≤ digitLimit

/-- A text in which no list and no object begins within too many others. -/
def NestsWithin (nesting : Nat) (cs : List Char) : Prop :=
  ∀ place position left,
    Place.Leads nesting place position left .start 0 cs
    → place.TakesValue
    → ∀ c container,
        left.head? = some c
        → Token.openedBy? c = some container
        → place.frames.length < nesting

/-- No limit is met from the start of a text exactly if the text is within the limits. -/
theorem readFrom_start_iff {nesting : Nat} {cs : List Char}
    : (∀ failure : Failure, failure.OfLimit → Place.start.readFrom nesting 0 0 cs ≠ .error failure)
      ↔ DigitsWithin nesting cs ∧ NestsWithin nesting cs := by
  have meets (failure : Failure) (limit : failure.OfLimit)
      : Place.start.readFrom nesting 0 0 cs = .error failure
        ↔ ∃ target stop left,
            Place.Leads nesting target stop left .start 0 cs
            ∧ Place.Meets nesting failure target stop left :=
    Place.readFrom_limit limit
  constructor
  · intro none
    refine ⟨fun place position left leads takes count ahead => ?_,
      fun place position left leads takes c container head opens => ?_⟩
    · by_contra many
      have limit : (Failure.tooManyDigits count).OfLimit := trivial
      have met : Place.Meets nesting _ place position left := (Place.meets_iff limit).mpr
        ⟨takes, .inl ⟨count, ahead, not_le.mp many, rfl⟩⟩
      exact none _ limit ((meets _ limit).mpr ⟨place, position, left, leads, met⟩)
    · by_contra deep
      have limit : (Failure.tooDeep container).OfLimit := trivial
      have met : Place.Meets nesting _ place position left := (Place.meets_iff limit).mpr
        ⟨takes, .inr ⟨c, container, head, opens, not_lt.mp deep, rfl⟩⟩
      exact none _ limit ((meets _ limit).mpr ⟨place, position, left, leads, met⟩)
  · rintro ⟨digits, nests⟩ failure limit failed
    obtain ⟨place, position, left, leads, met⟩ := (meets _ limit).mp failed
    obtain ⟨takes, ⟨count, ahead, many, _⟩ | ⟨c, container, head, opens, deep, _⟩⟩ :=
      (Place.meets_iff limit).mp met
    · exact absurd (digits place position left leads takes count ahead) (not_le.mpr many)
    · exact absurd (nests place position left leads takes c container head opens) (not_lt.mpr deep)

/-- A text is read, or fails by its form, exactly if it is within the limits. -/
theorem parse_limit_iff {nesting : Nat} {source : String}
    : (∀ failure : Failure, failure.OfLimit → parse nesting source ≠ .error failure)
      ↔ DigitsWithin nesting source.toList ∧ NestsWithin nesting source.toList := by
  rw [← readFrom_start_iff]
  refine forall₂_congr fun failure limit => not_congr ?_
  unfold parse
  split
  next rest bom =>
    -- A byte order mark is no token, so that the reading would fail there by the form, too.
    have failed : Place.start.readFrom nesting 0 0 ('\ufeff' :: rest)
        = .error (.malformed .valueExpected 0) := rfl
    rw [bom, failed]
    constructor
    · rintro ⟨⟩
      exact limit.elim
    · rintro ⟨⟩
      exact limit.elim
  · rfl

end Polystore.Json
