import Mathlib
import Traversal.Toml.Reader

/-!
# What a reader makes of a document

A reader either gives a value and a place, or it refuses.  What matters about a refusal is whether it is
final: after one that is not, something else is tried (`Balks`).  For each way of putting readers together
there is a lemma that says what comes of it when the parts give something, and one for when they balk.

Readers that go on as long as they can are described by what they leave: `ReadsAll` and `ReadsEach` follow the
single steps up to the place where no further one is possible, and `many_of_readsAll` and
`eachFrom_of_readsEach` say that the reader goes just as far.
-/

namespace Traversal.Toml.Reader

variable {α β : Type} {r r' : Reader α} {f : α → Reader β} {a : α} {b : β} {s s' s'' : Place}

/-! ### Refusals -/

/-- A reader refuses a place, and something else may be tried there. -/
def Balks (r : Reader α) (s : Place) : Prop :=
  ∃ refusal, r s = .error refusal ∧ refusal.isFinal = false

/-- A reader refuses a place for good. -/
def Breaks (r : Reader α) (s : Place) : Prop :=
  ∃ refusal, r s = .error refusal ∧ refusal.isFinal = true

/-! ### One thing behind another -/

/-- Reading goes on behind what has been read. -/
lemma bind_of_ok (h : r s = .ok (a, s')) : (r >>= f) s = f a s' := by
  change Reader.bind r f s = _
  simp only [Reader.bind, h]

/-- Reading ends where a reader refuses. -/
lemma bind_of_error {refusal : Refusal} (h : r s = .error refusal) : (r >>= f) s = .error refusal := by
  change Reader.bind r f s = _
  simp only [Reader.bind, h]

/-- A sequence balks where its first part does. -/
lemma Balks.bind (h : Balks r s) : Balks (r >>= f) s := by
  obtain ⟨refusal, heq, hfinal⟩ := h
  exact ⟨refusal, bind_of_error heq, hfinal⟩

/-- A sequence balks where its second part does. -/
lemma Balks.of_bind (h : r s = .ok (a, s')) (h' : Balks (f a) s') : Balks (r >>= f) s := by
  obtain ⟨refusal, heq, hfinal⟩ := h'
  exact ⟨refusal, (bind_of_ok h).trans heq, hfinal⟩

/-! ### Readers around a reader -/

/-- What must be there is there. -/
lemma must_of_ok (h : r s = .ok (a, s')) : must r s = .ok (a, s') := by
  simp only [must, h, Except.mapError]

/-- What must be there and is not is refused for good. -/
lemma must_of_error {refusal : Refusal} (h : r s = .error refusal) : Breaks (must r) s :=
  ⟨{ refusal with isFinal := true }, by simp only [must, h, Except.mapError], rfl⟩

/-- A construct that is read needs no name. -/
lemma named_of_ok (h : r s = .ok (a, s')) (construct : String) : named r construct s = .ok (a, s') := by
  simp only [named, h, Except.mapError]

/-- Naming a construct does not make a refusal final. -/
lemma Balks.named (h : Balks r s) (construct : String) : Balks (named r construct) s := by
  obtain ⟨refusal, heq, hfinal⟩ := h
  exact ⟨{ refusal with construct := refusal.construct <|> some construct },
    by rw [Reader.named, heq, Except.mapError], hfinal⟩

/-- What is read was expected. -/
lemma expecting_of_ok (h : r s = .ok (a, s')) (expected : List String) :
    expecting r expected s = .ok (a, s') := by
  simp only [expecting, h, Except.mapError]

/-- What is read is given with its stretch. -/
lemma spanned_of_ok (h : r s = .ok (a, s')) : spanned r s = .ok ((a, ⟨s, s'⟩), s') := by
  simp only [spanned, h]

/-- A stretch does not make a refusal final. -/
lemma Balks.spanned (h : Balks r s) : Balks (spanned r) s := by
  obtain ⟨refusal, heq, hfinal⟩ := h
  exact ⟨refusal, by rw [Reader.spanned, heq], hfinal⟩

/-- What is read passes a check. -/
lemma checked_of_ok {check : α → Except Objection β} (h : r s = .ok (a, s')) (hcheck : check a = .ok b) :
    checked r check s = .ok (b, s') := by
  simp only [checked, h, hcheck]

/-- What is read is objected to. -/
lemma checked_of_objection {check : α → Except Objection β} {objection : Objection}
    (h : r s = .ok (a, s')) (hcheck : check a = .error objection) : Balks (checked r check) s :=
  ⟨{ place := s, objection := some objection }, by simp only [checked, h, hcheck], rfl⟩

/-- A check is not made where nothing is read. -/
lemma Balks.checked (h : Balks r s) (check : α → Except Objection β) : Balks (checked r check) s := by
  obtain ⟨refusal, heq, hfinal⟩ := h
  exact ⟨refusal, by rw [Reader.checked, heq], hfinal⟩

/-! ### Choices -/

/-- Something that may be there is there. -/
lemma optional_of_ok (h : r s = .ok (a, s')) : optional r s = .ok (some a, s') := by
  simp only [optional, h]

/-- Something that may be there is not. -/
lemma optional_of_balks (h : Balks r s) : optional r s = .ok (none, s) := by
  obtain ⟨refusal, heq, hfinal⟩ := h
  simp only [optional, heq, hfinal, Bool.false_eq_true, if_false]

/-- The first of two things is there. -/
lemma orElse_of_ok (h : r s = .ok (a, s')) : orElse r r' s = .ok (a, s') := by
  simp only [orElse, h]

/-- The first of two things is not there. -/
lemma orElse_of_balks (h : Balks r s) : orElse r r' s = r' s := by
  obtain ⟨refusal, heq, hfinal⟩ := h
  simp only [orElse, heq, hfinal, Bool.false_eq_true, if_false]

/-- Neither of two things is there. -/
lemma Balks.orElse (h : Balks r s) (h' : Balks r' s) : Balks (orElse r r') s := by
  obtain ⟨refusal, heq, hfinal⟩ := h'
  exact ⟨refusal, (orElse_of_balks h).trans heq, hfinal⟩

/-! ### Characters -/

/-- The next character is none of a class, if there is one. -/
def NotNext (p : Char → Bool) (s : Place) : Prop :=
  ∀ c ∈ s.head?, p c = false

/-- The next character is known. -/
lemma notNext_cons {p : Char → Bool} {c : Char} (h : p c = false) (s : Place) : NotNext p (c :: s) := by
  rintro d hd
  rw [List.head?_cons, Option.mem_def, Option.some.injEq] at hd
  exact hd ▸ h

/-- What is not in a class is not in a smaller one. -/
lemma NotNext.mono {p q : Char → Bool} (h : NotNext p s) (hsub : ∀ c, q c = true → p c = true) :
    NotNext q s := fun c hc => by
  rw [← Bool.not_eq_true]
  exact fun hq => absurd (hsub c hq) (by rw [h c hc]; decide)

/-- A class that has none of given characters. -/
lemma eq_false_of_any {p : Char → Bool} {chars : List Char} (h : chars.any p = false) {c : Char}
    (hc : c ∈ chars) : p c = false := by
  rw [List.any_eq_false] at h
  exact Bool.eq_false_iff.mpr (h c hc)

/-- The next character is one of given ones. -/
def NextIn (chars : List Char) (s : Place) : Prop :=
  ∃ c rest, s = c :: rest ∧ c ∈ chars

/-- The next character is none of a class that has none of the given ones. -/
lemma NextIn.notNext {p : Char → Bool} {chars : List Char} (h : NextIn chars s) (hp : chars.any p = false) :
    NotNext p s := by
  obtain ⟨c, rest, rfl, hc⟩ := h
  exact notNext_cons (eq_false_of_any hp hc) rest

/-- A character of a class is read. -/
lemma satisfy_cons {p : Char → Bool} {c : Char} (h : p c = true) (s : Place) :
    satisfy p (c :: s) = .ok (c, s) := by
  simp only [satisfy, h, if_true]

/-- A character of a class is not there. -/
lemma satisfy_balks {p : Char → Bool} (h : NotNext p s) : Balks (satisfy p) s := by
  cases s with
  | nil => exact ⟨_, rfl, rfl⟩
  | cons c s =>
    have hc : p c = false := h c rfl
    exact ⟨_, by simp only [satisfy, hc, Bool.false_eq_true, if_false]; rfl, rfl⟩

/-- A given character is read. -/
lemma char_cons (c : Char) (s : Place) : char c (c :: s) = .ok (c, s) :=
  satisfy_cons (by simp) s

/-- A given character is not there. -/
lemma char_balks {c : Char} (h : NotNext (· = c) s) : Balks (char c) s :=
  satisfy_balks h

/-- Given characters are not there. -/
lemma literal_balks {text : List Char} (h : text.isPrefixOf s = false) : Balks (literal text) s :=
  ⟨_, by simp only [literal, h, Bool.false_eq_true, if_false]; rfl, rfl⟩

/-- A run of a class ends where no further character of the class comes. -/
lemma takeWhile_append_of_notNext {p : Char → Bool} {chars : List Char} (hall : ∀ c ∈ chars, p c = true)
    (h : NotNext p s) : (chars ++ s).takeWhile p = chars ∧ (chars ++ s).dropWhile p = s := by
  have hs : s.takeWhile p = [] ∧ s.dropWhile p = s := by
    cases s with
    | nil => exact ⟨rfl, rfl⟩
    | cons c s =>
      have hc : ¬ p c = true := by
        rw [h c rfl]
        decide
      exact ⟨List.takeWhile_cons_of_neg hc, List.dropWhile_cons_of_neg hc⟩
  rw [List.takeWhile_append_of_pos hall, List.dropWhile_append_of_pos hall, hs.1, hs.2, List.append_nil]
  exact ⟨rfl, rfl⟩

/-- A run of a class is read. -/
lemma takeWhile_append {p : Char → Bool} {chars : List Char} (hall : ∀ c ∈ chars, p c = true)
    (h : NotNext p s) : takeWhile p (chars ++ s) = .ok (chars, s) := by
  obtain ⟨htake, hdrop⟩ := takeWhile_append_of_notNext hall h
  rw [takeWhile, htake, hdrop]

/-- A run of a class that is not empty is read. -/
lemma takeWhile1_append {p : Char → Bool} {chars : List Char} (hne : chars ≠ [])
    (hall : ∀ c ∈ chars, p c = true) (h : NotNext p s) : takeWhile1 p (chars ++ s) = .ok (chars, s) := by
  obtain ⟨htake, hdrop⟩ := takeWhile_append_of_notNext hall h
  unfold takeWhile1
  simp only [htake, hdrop]

/-- A run of a class is not there. -/
lemma takeWhile1_balks {p : Char → Bool} (h : NotNext p s) : Balks (takeWhile1 p) s := by
  have htake : s.takeWhile p = [] := (takeWhile_append_of_notNext (List.forall_mem_nil _) h).1
  exact ⟨{ place := s }, by unfold takeWhile1; simp only [htake], rfl⟩

/-- A given number of characters of a class is read. -/
lemma takeExactly_append {p : Char → Bool} {chars : List Char} (hall : ∀ c ∈ chars, p c = true) (s : Place) :
    takeExactly chars.length p (chars ++ s) = .ok (chars, s) := by
  have htake : ((chars ++ s).take chars.length).takeWhile p = chars := by
    rw [List.take_left, List.takeWhile_eq_self_iff]
    exact hall
  simp only [takeExactly, htake, if_true, List.drop_left]

/-- A given number of characters of a class is there, or the reader balks. -/
lemma takeExactly_cases (n : Nat) (p : Char → Bool) (s : Place) :
    Balks (takeExactly n p) s ∨
      ∃ chars s', s = chars ++ s' ∧ chars.length = n ∧ (∀ c ∈ chars, p c = true) ∧
        takeExactly n p s = .ok (chars, s') := by
  by_cases hlength : ((s.take n).takeWhile p).length = n
  · right
    have hwhole : (s.take n).takeWhile p = s.take n :=
      (List.takeWhile_prefix p).eq_of_length_le (by rw [hlength]; exact List.length_take_le n s)
    refine ⟨s.take n, s.drop n, (List.take_append_drop n s).symm, hwhole ▸ hlength,
      List.takeWhile_eq_self_iff.mp hwhole, ?_⟩
    simp only [takeExactly, hwhole, hwhole ▸ hlength, if_true]
  · exact .inl ⟨{ place := s }, by simp only [takeExactly, hlength, if_false], rfl⟩

/-! ### As often as possible -/

/-- A reader is used again and again, up to a place where it balks. -/
inductive ReadsAll (r : Reader α) : Place → List α → Place → Prop
  | nil {s : Place} (h : Balks r s) : ReadsAll r s [] s
  | cons {s s' s'' : Place} {a : α} {as : List α} (h : r s = .ok (a, s'))
    (hlength : s'.length < s.length) (hrest : ReadsAll r s' as s'') : ReadsAll r s (a :: as) s''

/-- No more is read than there are characters. -/
lemma ReadsAll.length_le {as : List α} (h : ReadsAll r s as s') : as.length ≤ s.length := by
  induction h with
  | nil => simp
  | cons _ hlength _ ih =>
    rw [List.length_cons]
    omega

/-- Things are read one after the other behind those read before. -/
lemma upTo_of_readsAll {as : List α} (h : ReadsAll r s as s') {n : Nat} (hn : as.length ≤ n)
    (before : List α) : upTo r n before s = .ok (before.reverse ++ as, s') := by
  induction h generalizing n before with
  | nil hbalks =>
    obtain ⟨refusal, heq, hfinal⟩ := hbalks
    cases n with
    | zero => simp [upTo, Reader.pure]
    | succ n => simp [upTo, heq, hfinal]
  | cons hread _ _ ih =>
    cases n with
    | zero => simp at hn
    | succ n =>
      rw [List.length_cons, Nat.succ_le_succ_iff] at hn
      simp only [upTo, hread, ih hn, List.reverse_cons, List.append_assoc, List.singleton_append]

/-- A reader that reads as often as it can goes up to the place where it balks. -/
theorem many_of_readsAll {as : List α} (h : ReadsAll r s as s') : many r s = .ok (as, s') :=
  upTo_of_readsAll h h.length_le []

/-- Things with separators between them are read. -/
lemma separated1_of_readsAll {separator : Reader Unit} {as : List α} (h : r s = .ok (a, s'))
    (hmore : ReadsAll (do separator; r) s' as s'') : separated1 r separator s = .ok (a :: as, s'') := by
  rw [separated1, bind_of_ok h, bind_of_ok (many_of_readsAll hmore)]
  rfl

/-- Things that may be there are read with the separators between them. -/
lemma separated_of_readsAll {separator : Reader Unit} {as : List α} (h : r s = .ok (a, s'))
    (hmore : ReadsAll (do separator; r) s' as s'') : separated r separator s = .ok (a :: as, s'') := by
  simp only [separated, optional_of_ok (separated1_of_readsAll h hmore), Option.getD_some]

/-- Where not even one thing is, none is read. -/
lemma separated_of_balks {separator : Reader Unit} (h : Balks r s) : separated r separator s = .ok ([], s) := by
  have hnone : Balks (separated1 r separator) s := h.bind
  simp only [separated, optional_of_balks hnone, Option.getD_none]

/-- A reader is used whenever the next character is one that it begins with. -/
inductive ReadsEach (begins : Char → Bool) (r : Reader Unit) : Place → Place → Prop
  | nil {s : Place} (h : NotNext begins s) : ReadsEach begins r s s
  | cons {c : Char} {s s' s'' : Place} (hc : begins c = true) (h : r (c :: s) = .ok ((), s'))
    (hlength : s'.length < (c :: s).length) (hrest : ReadsEach begins r s' s'') :
    ReadsEach begins r (c :: s) s''

/-- A reader that is used whenever it can begin goes up to the place where it cannot. -/
theorem eachFrom_of_readsEach {begins : Char → Bool} {r : Reader Unit} (h : ReadsEach begins r s s') :
    eachFrom begins r s = .ok ((), s') := by
  have hsteps : ∀ n, s.length ≤ n → upToFrom begins r n s = .ok ((), s') := by
    induction h with
    | @nil s h =>
      intro n _
      cases n with
      | zero => rfl
      | succ n =>
        cases s with
        | nil => rfl
        | cons c s => simp only [upToFrom, h c rfl, Bool.false_eq_true, if_false]
    | cons hc hread hlength _ ih =>
      intro n hn
      cases n with
      | zero => simp at hn
      | succ n =>
        simp only [upToFrom, hc, if_true, Reader.bind, hread]
        exact ih n (by omega)
  exact hsteps s.length le_rfl

end Traversal.Toml.Reader
