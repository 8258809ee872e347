import Polystore.Json.Document
import Polystore.Proofs.Entries.Lookup
import Polystore.Proofs.Value.Inspection

/-! Documents are read in canonical form: numbers are rounded once, texts keep the codes that their
escapes name, and of the members of one name only the last stands.
-/

namespace Polystore.Json

open Text

variable {nesting : Nat}

/-- A text in which the mark does not occur: it stands for no assigned character, and halves of
pairs are named by escapes.
-/
def Unmarked (cs : List Char) : Prop := ∀ c ∈ cs, c ≠ keptMark

theorem Unmarked.tail {c : Char} {cs : List Char} (h : Unmarked (c :: cs)) : Unmarked cs :=
  fun d member => h d (List.mem_cons_of_mem _ member)

-----------------------------------------------------------------------------------------
-- Tokens
-----------------------------------------------------------------------------------------

namespace Token

theorem digitValue?_lt {c : Char} {d : Nat} (h : Decimal.digitValue? c = some d) : d < 16 := by
  unfold Decimal.digitValue? at h
  split_ifs at h with decimal lower upper <;> cases h
  · have : c.toNat ≤ 57 := decimal.2
    exact (by omega : c.toNat - 48 < 16)
  · have : c.toNat ≤ 102 := lower.2
    exact (by omega : c.toNat - 97 + 10 < 16)
  · have : c.toNat ≤ 70 := upper.2
    exact (by omega : c.toNat - 65 + 10 < 16)

/-- Four digits name a code of the first plane. -/
theorem code?_lt {cs : List Char} {code : Nat} (h : code? cs = some code) : code < 0x10000 := by
  unfold code? at h
  split at h
  · simp only [Option.bind_eq_bind, Option.bind_eq_some_iff, Option.pure_def,
      Option.some.injEq] at h
    obtain ⟨a, ha, b, hb, c, hc, d, hd, rfl⟩ := h
    have := digitValue?_lt ha
    have := digitValue?_lt hb
    have := digitValue?_lt hc
    have := digitValue?_lt hd
    omega
  · cases h

theorem pairCode_lt {high low : Nat} (first : isHighSurrogate high) (second : isLowSurrogate low)
    : pairCode high low < 0x110000 := by
  simp only [isHighSurrogate, isLowSurrogate, Bool.and_eq_true, decide_eq_true_eq]
    at first second
  unfold pairCode
  omega

theorem letterEscape?_ne {c d : Char} (h : letterEscape? c = some d) : d ≠ keptMark := by
  refine ne_keptMark ?_
  unfold letterEscape? at h
  split at h <;> cases h <;> decide

/-- An escape names a code. -/
theorem kept_escape {start position : Nat} {cs read : List Char} {taken : Nat}
    (h : escape start position cs = .ok (read, taken))
    : Kept read := by
  unfold escape at h
  split at h
  · cases h
  · split at h
    · cases h
    · split at h
      · cases h
      next high found =>
        have small : high < 0x110000 := (code?_lt found).trans (by decide)
        split at h
        next first _ =>
          split at h
          · cases h
            exact kept_ofCode small
          · split at h
            · cases h
            · split at h
              next second =>
                rw [← (Prod.mk.inj (Except.ok.inj h)).1]
                exact kept_ofCode (pairCode_lt first second)
              next =>
                rw [← (Prod.mk.inj (Except.ok.inj h)).1]
                exact kept_ofCode small
        next =>
          cases h
          exact kept_ofCode small
  · split at h <;> cases h
    next d letter =>
      exact kept_of_plain fun c member => by
        obtain rfl := List.mem_singleton.mp member
        exact letterEscape?_ne letter

/-- A text is kept whatever its escapes name, by induction on the characters that it is read from.
-/
theorem kept_textFrom {start skip position : Nat} {read cs : List Char} {s : String} {finish : Nat}
    (unmarked : Unmarked cs) (kept : Kept read.reverse)
    (h : textFrom start read skip position cs = .ok (s, finish))
    : Kept s.toList := by
  induction cs generalizing read skip position with
  | nil => cases skip <;> cases h
  | cons c rest ih =>
      cases skip with
      | succ skip => exact ih unmarked.tail kept h
      | zero =>
          rw [textFrom] at h
          split at h
          · cases h
            rwa [String.toList_ofList]
          · split at h
            · split at h
              · cases h
              next cs taken escaped =>
                refine ih unmarked.tail ?_ h
                rw [List.reverse_append, List.reverse_reverse]
                exact kept.append (kept_escape escaped)
            · split at h
              · cases h
              · refine ih unmarked.tail ?_ h
                rw [List.reverse_cons]
                refine kept.append (kept_of_plain fun d member => ?_)
                obtain rfl := List.mem_singleton.mp member
                exact unmarked d List.mem_cons_self

/-- What a token stands for is in canonical form. -/
def Canonical : Token → Prop
  | text s => Kept s.toList
  | literal v => v.Canonical
  | _ => True

theorem canonical_ofDecimal (negative : Bool) (units : Nat) (power : Int)
    : (Value.float (Binary64.ofDecimal negative units power)).Canonical := by
  cases is : Binary64.ofDecimal negative units power with
  | nan => exact .nan
  | infinite sign => exact .infinite sign
  | finite sign significand exponent => exact .finite (Binary64.canonical_ofDecimal is)

theorem canonical_number? {negative : Bool} {cs : List Char} {token : Token} {length : Nat}
    (h : number? negative cs = some (token, length))
    : token.Canonical := by
  unfold number? at h
  dsimp only at h
  repeat' split at h
  all_goals cases h
  all_goals
    first
    | exact trivial
    | exact .int _
    | exact canonical_ofDecimal ..

theorem canonical_word? {cs : List Char} {token : Token} {length : Nat}
    (h : word? cs = some (token, length))
    : token.Canonical := by
  obtain ⟨⟨word, v⟩, listed, found⟩ := List.exists_of_findSome?_eq_some h
  dsimp only at found
  split at found <;> cases found
  simp only [words, List.mem_cons, List.not_mem_nil, or_false, Prod.mk.injEq] at listed
  rcases listed with ⟨_, rfl⟩ | ⟨_, rfl⟩ | ⟨_, rfl⟩ | ⟨_, rfl⟩ | ⟨_, rfl⟩ | ⟨_, rfl⟩
  · exact .null
  · exact .bool true
  · exact .bool false
  · exact .nan
  · exact .infinite false
  · exact .infinite true

/-- The first token of a text. -/
theorem canonical_first (position : Nat) {cs : List Char} (unmarked : Unmarked cs)
    : (first position cs).1.Canonical := by
  have word (cs : List Char) : ((word? cs).getD (unknown, 1)).1.Canonical := by
    cases found : word? cs with
    | none => exact trivial
    | some read => exact canonical_word? found
  unfold first
  split
  iterate 7 exact trivial
  · split
    next read => exact kept_textFrom unmarked.tail (kept_of_plain (List.forall_mem_nil _)) read
    next => exact trivial
  · split
    next number => exact canonical_number? number
    next => exact word _
  · cases number : number? false cs with
    | none => exact word _
    | some read => exact canonical_number? number

end Token

-----------------------------------------------------------------------------------------
-- Places
-----------------------------------------------------------------------------------------

/-- What an open list or object holds so far is in canonical form. -/
def Frame.Canonical : Frame → Prop
  | .list items => (Value.list items).Canonical
  | .object members name => (Value.object members).Canonical ∧ Kept name.toList

/-- What has been read up to a place is in canonical form. -/
structure Place.Canonical (place : Place) : Prop where
  frames : ∀ frame ∈ place.frames, frame.Canonical
  document : ∀ v, place.expects = .finish v → v.Canonical

namespace Place

variable {frames : List Frame} {position : Nat} {token : Token} {next : Place}

/-- A place inside of frames, where no document is finished. -/
theorem Canonical.inside {expects : Expectation} (each : ∀ frame ∈ frames, frame.Canonical)
    (unfinished : ∀ v, expects ≠ .finish v)
    : Canonical ⟨expects, frames⟩ :=
  ⟨each, fun v finished => absurd finished (unfinished v)⟩

/-- A member that is put replaces the one of its name. -/
theorem canonical_put {members : Row} {name : String} {v : Value}
    (canonical : (Value.object members).Canonical) (kept : Kept name.toList)
    (value : v.Canonical)
    : (Value.object (members.put name v)).Canonical := by
  cases canonical with
  | object distinct names each =>
      refine .object (Entries.nodup_keys_put distinct name v) (fun member listed => ?_)
        fun member listed => ?_
      · rcases Entries.mem_of_mem_put listed with rfl | listed
        · exact kept
        · exact names member listed
      · rcases Entries.mem_of_mem_put listed with rfl | listed
        · exact value
        · exact each member listed

theorem canonical_afterValue {v : Value} (value : v.Canonical)
    (each : ∀ frame ∈ frames, frame.Canonical)
    : (afterValue v frames).Canonical := by
  cases frames with
  | nil =>
      refine ⟨each, ?_⟩
      rintro _ ⟨⟩
      exact value
  | cons frame frames =>
      obtain ⟨first, rest⟩ := List.forall_mem_cons.mp each
      cases frame with
      | list items =>
          refine .inside (List.forall_mem_cons.mpr ⟨?_, rest⟩) nofun
          exact .list (List.forall_mem_cons.mpr ⟨value, Value.canonical_list_iff.mp first⟩)
      | object members name =>
          refine .inside (List.forall_mem_cons.mpr ⟨?_, rest⟩) nofun
          exact ⟨canonical_put first.1 first.2 value, first.2⟩

/-- A list that is closed has its items in the order of the text. -/
theorem canonical_afterList {items : List Value}
    (each : ∀ frame ∈ Frame.list items :: frames, frame.Canonical)
    : (afterValue (.list items.reverse) frames).Canonical := by
  obtain ⟨first, rest⟩ := List.forall_mem_cons.mp each
  have held := Value.canonical_list_iff.mp first
  exact canonical_afterValue (.list fun x member => held x (List.mem_reverse.mp member)) rest

theorem canonical_afterObject {members : Row} {name : String}
    (each : ∀ frame ∈ Frame.object members name :: frames, frame.Canonical)
    : (afterValue (.object members) frames).Canonical := by
  obtain ⟨first, rest⟩ := List.forall_mem_cons.mp each
  exact canonical_afterValue first.1 rest

theorem canonical_onValue (each : ∀ frame ∈ frames, frame.Canonical) (canonical : token.Canonical)
    (h : onValue nesting position frames token = .ok next)
    : next.Canonical := by
  have opening {container : Container} (h : openFrame nesting container frames = .ok next) :
      next.Canonical := by
    unfold openFrame at h
    split at h
    · cases h
    · split at h
      all_goals
        cases h
        refine .inside (List.forall_mem_cons.mpr ⟨?_, each⟩) nofun
      · exact .list (List.forall_mem_nil _)
      · exact ⟨.object .nil (List.forall_mem_nil _) (List.forall_mem_nil _),
          kept_of_plain (List.forall_mem_nil _)⟩
  unfold onValue at h
  split at h
  · cases h
    exact canonical_afterValue (.text canonical) each
  · cases h
    exact canonical_afterValue canonical each
  · exact opening h
  · exact opening h
  · cases h
  · cases h
  · cases h

theorem canonical_onName (each : ∀ frame ∈ frames, frame.Canonical) (canonical : token.Canonical)
    (h : onName position frames token = .ok next)
    : next.Canonical := by
  unfold onName at h
  split at h
  · split at h
    · cases h
      obtain ⟨first, rest⟩ := List.forall_mem_cons.mp each
      exact .inside (List.forall_mem_cons.mpr ⟨⟨first.1, canonical⟩, rest⟩) nofun
    · cases h
  · cases h
  · cases h

theorem canonical_onComma (each : ∀ frame ∈ frames, frame.Canonical)
    (h : onComma position frames token = .ok next)
    : next.Canonical := by
  unfold onComma at h
  split at h
  · cases h
    exact .inside each nofun
  · cases h
    exact canonical_afterList each
  · cases h
    exact .inside each nofun
  · cases h
    exact canonical_afterObject each
  · cases h

/-- A token in canonical form leads from such a place to another. -/
theorem canonical_step {place : Place} (canonical : place.Canonical) (read : token.Canonical)
    (h : place.step nesting position token = .ok next)
    : next.Canonical := by
  obtain ⟨expects, frames⟩ := place
  have each := canonical.frames
  unfold step at h
  cases expects with
  | value => exact canonical_onValue each read h
  | valueOrClose =>
      dsimp only at h
      split at h
      · cases h
        exact canonical_afterList each
      · exact canonical_onValue each read h
  | nameOrClose =>
      dsimp only at h
      split at h
      · cases h
        exact canonical_afterObject each
      · exact canonical_onName each read h
  | name => exact canonical_onName each read h
  | colon =>
      dsimp only at h
      split at h
      · cases h
        exact .inside each nofun
      · cases h
  | commaOrClose => exact canonical_onComma each h
  | finish => cases h

/-- Whatever is read from a place in canonical form is, by induction on the characters. -/
theorem canonical_readFrom {place : Place} {skip : Nat} {cs : List Char} {v : Value}
    (canonical : place.Canonical) (unmarked : Unmarked cs)
    (h : place.readFrom nesting skip position cs = .ok v)
    : v.Canonical := by
  induction cs generalizing place skip position with
  | nil =>
      rw [readFrom] at h
      unfold finish at h
      split at h
      next document is =>
        cases h
        exact canonical.document _ is
      all_goals cases h
  | cons c rest ih =>
      cases skip with
      | succ skip => exact ih canonical unmarked.tail h
      | zero =>
          rw [readFrom] at h
          split at h
          · exact ih canonical unmarked.tail h
          · dsimp only at h
            split at h
            · cases h
            next next read =>
              have token := Token.canonical_first position unmarked
              exact ih (canonical_step canonical token read) unmarked.tail h

end Place

/-- What is read from a text is in canonical form. -/
theorem canonical_parse {source : String} (unmarked : Unmarked source.toList) {v : Value}
    (h : parse nesting source = .ok v)
    : v.Canonical := by
  unfold parse at h
  split at h
  · cases h
  · have start : Place.start.Canonical := Place.Canonical.inside (List.forall_mem_nil _) nofun
    exact Place.canonical_readFrom start unmarked h

/-- So is each value of a row that is read from one. -/
theorem canonical_cell {source : String} (unmarked : Unmarked source.toList) {row : Row}
    (h : parse nesting source = .ok (.object row)) (column : String)
    : (row.cell column).Canonical := by
  unfold Row.cell
  cases found : row.lookup column with
  | none => exact .null
  | some v =>
      cases canonical_parse unmarked h with
      | object _ _ each => exact each (column, v) (Entries.mem_of_lookup found)

end Polystore.Json
