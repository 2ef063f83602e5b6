import Mathlib.Data.List.TakeWhile
import PageHarvest.Text.Digit

/-!
Integers as they are written, and that reading accepts exactly these: digits of any script with single
underscores between them, one sign before them, and blanks around.
-/
namespace PageHarvest.Text

/-- Digits with single underscores between them, and the number that they stand for. -/
inductive Digits : List Char → Nat → Prop where
  | one {c d} (digit : digitValue? c = some d) : Digits [c] d
  | next {cs n c d} (before : Digits cs n) (digit : digitValue? c = some d) : Digits (cs ++ [c]) (n * 10 + d)
  | spaced {cs n c d} (before : Digits cs n) (digit : digitValue? c = some d) :
      Digits (cs ++ ['_', c]) (n * 10 + d)

/-- A sign, or none, and what it makes of a number. -/
inductive Signs : List Char → Nat → Int → Prop where
  | none (m) : Signs [] m m
  | plus (m) : Signs ['+'] m m
  | minus (m) : Signs ['-'] m (-m)

/-- The text stands for the integer `n`. -/
structure Numeral (s : String) (n : Int) : Prop where
  written : ∃ before sign digits after m, s.toList = before ++ (sign ++ digits) ++ after ∧
    (∀ c ∈ before, isNumberGap c) ∧ (∀ c ∈ after, isNumberGap c) ∧ Signs sign m n ∧ Digits digits m ∧
    digits.countP isDigit ≤ mostDigits

section Reading
variable {cs rest : List Char} {v m n : Nat}

theorem digitsValue?_append (read : digitsValue? v cs = some m) :
    digitsValue? v (cs ++ rest) = digitsValue? m rest := by
  fun_induction digitsValue? v cs with
  | case1 v =>
    cases read
    rfl
  | case2 v c more d digit ih =>
    rw [List.cons_append, List.cons_append, digitsValue?, digit]
    exact ih read
  | case3 v c more no_digit => cases read
  | case4 v c more lone d digit ih =>
    rw [List.cons_append, digitsValue?, digit]
    · exact ih read
    · rintro c' more' rfl
      cases digit
  | case5 v c more lone no_digit => cases read

theorem digits_append_of_read (before : Digits cs v) (read : digitsValue? v rest = some m) :
    Digits (cs ++ rest) m := by
  fun_induction digitsValue? v rest generalizing cs with
  | case1 v =>
    cases read
    rwa [List.append_nil]
  | case2 v c more d digit ih => simpa using ih (.spaced before digit) read
  | case3 v c more no_digit => cases read
  | case4 v c more lone d digit ih => simpa using ih (.next before digit) read
  | case5 v c more lone no_digit => cases read

theorem Digits.head_digit (digits : Digits cs n) : ∃ c more, cs = c :: more ∧ (digitValue? c).isSome := by
  induction digits with
  | @one c d digit => exact ⟨c, [], rfl, by rw [digit]; rfl⟩
  | next before digit ih =>
    obtain ⟨c, more, rfl, first⟩ := ih
    exact ⟨c, _, rfl, first⟩
  | spaced before digit ih =>
    obtain ⟨c, more, rfl, first⟩ := ih
    exact ⟨c, _, rfl, first⟩

theorem Digits.read (digits : Digits cs n) : digitsValue? 0 cs = some n := by
  have last {v c d} (digit : digitValue? c = some d) : digitsValue? v [c] = some (v * 10 + d) := by
    rw [digitsValue?, digit]
    · rfl
    · exact nofun
  induction digits with
  | one digit => rw [last digit, Nat.zero_mul, Nat.zero_add]
  | next before digit ih => rw [digitsValue?_append ih, last digit]
  | spaced before digit ih =>
    rw [digitsValue?_append ih, digitsValue?, digit]
    rfl

theorem natural?_eq_some_iff : natural? cs = some n ↔ Digits cs n := by
  constructor
  · intro read
    unfold natural? at read
    split at read
    · rename_i c rest
      split at read
      · rename_i first
        obtain ⟨d, digit⟩ := Option.isSome_iff_exists.mp first
        rw [digitsValue?, digit] at read
        · exact digits_append_of_read (.one digit) (by simpa using read)
        · rintro c' more rfl
          cases digit
      · cases read
    · cases read
  · intro digits
    obtain ⟨c, more, rfl, first⟩ := digits.head_digit
    unfold natural?
    dsimp only
    rw [if_pos first]
    exact digits.read

end Reading

section Trimming
variable {drop : Char → Bool} {cs before body after : List Char}

theorem dropWhile_all_append (all : ∀ c ∈ before, drop c) :
    (before ++ cs).dropWhile drop = cs.dropWhile drop := by
  rw [List.dropWhile_append, List.dropWhile_eq_nil_iff.mpr all]
  rfl

theorem dropWhile_of_head (kept : ∃ c more, cs = c :: more ∧ drop c = false) : cs.dropWhile drop = cs := by
  obtain ⟨c, more, rfl, stays⟩ := kept
  rw [List.dropWhile_cons, stays, if_neg Bool.false_ne_true]

/-- Trimming takes off what is around a body that neither starts nor ends with it. -/
theorem trimBy_around (front : ∀ c ∈ before, drop c) (back : ∀ c ∈ after, drop c)
    (first : ∃ c more, body = c :: more ∧ drop c = false)
    (last : ∃ more c, body = more ++ [c] ∧ drop c = false) :
    trimBy drop (before ++ body ++ after) = body := by
  have starts : ∃ c more, body ++ after = c :: more ∧ drop c = false := by
    obtain ⟨c, more, rfl, stays⟩ := first
    exact ⟨c, more ++ after, rfl, stays⟩
  have ends : ∃ c more, body.reverse = c :: more ∧ drop c = false := by
    obtain ⟨more, c, rfl, stays⟩ := last
    exact ⟨c, more.reverse, by simp, stays⟩
  have back' : ∀ c ∈ after.reverse, drop c := fun c mem => back c (List.mem_reverse.mp mem)
  rw [trimBy, List.append_assoc, dropWhile_all_append front, dropWhile_of_head starts, List.reverse_append,
    dropWhile_all_append back', dropWhile_of_head ends, List.reverse_reverse]

/-- What trimming takes off is all to be taken off. -/
theorem exists_trimmed (drop : Char → Bool) (cs : List Char) : ∃ before after,
    cs = before ++ trimBy drop cs ++ after ∧ (∀ c ∈ before, drop c) ∧ ∀ c ∈ after, drop c := by
  have front := List.takeWhile_append_dropWhile (p := drop) (l := cs)
  have back := List.takeWhile_append_dropWhile (p := drop) (l := (cs.dropWhile drop).reverse)
  have back := congrArg List.reverse back
  rw [List.reverse_append, List.reverse_reverse] at back
  refine ⟨cs.takeWhile drop, ((cs.dropWhile drop).reverse.takeWhile drop).reverse, ?_, ?_, ?_⟩
  · rw [trimBy, List.append_assoc, back, front]
  · exact fun c mem => List.mem_takeWhile_imp mem
  · exact fun c mem => List.mem_takeWhile_imp (List.mem_reverse.mp mem)

end Trimming

section Integers
variable {cs digits sign : List Char} {m : Nat} {n : Int} {s : String}

/-- All blanks. -/
def blanks : List Char :=
  ['\t', '\n', '\x0b', '\x0c', '\r', '\x1c', '\x1d', '\x1e', '\x1f', ' ', '\x85', '\xa0', '\u1680', '\u2000',
    '\u2001', '\u2002', '\u2003', '\u2004', '\u2005', '\u2006', '\u2007', '\u2008', '\u2009', '\u200a',
    '\u2028', '\u2029', '\u202f', '\u205f', '\u3000']

theorem mem_blanks_of_blank {c : Char} (blank : isBlank c) : c ∈ blanks := by
  have point : c.toNat ∈ blanks.map Char.toNat := by
    simp only [isBlank, Bool.and_eq_true, Bool.or_eq_true, decide_eq_true_eq, beq_iff_eq] at blank
    simp only [blanks, List.map_cons, List.map_nil, List.mem_cons, List.not_mem_nil, or_false,
      Char.reduceToNat]
    omega
  obtain ⟨c', mem, same⟩ := List.mem_map.mp point
  rwa [← Char.toNat_inj.mp same]

theorem not_blank_of_digit {c : Char} (digit : (digitValue? c).isSome) : isBlank c = false := by
  have apart : (blanks.all fun c => (digitValue? c).isNone) = true := by decide +kernel
  by_contra blank
  have other := List.all_eq_true.mp apart c (mem_blanks_of_blank (Bool.not_eq_false _ ▸ blank))
  rw [Option.isNone_iff_eq_none.mp other] at digit
  cases digit

theorem not_gap_of_digit {c : Char} (digit : (digitValue? c).isSome) : isNumberGap c = false := by
  rw [isNumberGap, not_blank_of_digit digit, Bool.false_and]

theorem Digits.last_digit (written : Digits digits m) :
    ∃ more c, digits = more ++ [c] ∧ (digitValue? c).isSome := by
  cases written with
  | @one c d digit => exact ⟨[], c, rfl, by rw [digit]; rfl⟩
  | @next before _ c d _ digit => exact ⟨before, c, rfl, by rw [digit]; rfl⟩
  | @spaced before _ c d _ digit => exact ⟨before ++ ['_'], c, by simp, by rw [digit]; rfl⟩

theorem Digits.all (written : Digits digits m) : ∀ c ∈ digits, isDigit c || c == '_' := by
  have one {c : Char} {d : Nat} (digit : digitValue? c = some d) : isDigit c || c == '_' := by
    rw [isDigit, digit]
    rfl
  induction written with
  | one digit => exact List.forall_mem_singleton.mpr (one digit)
  | next before digit ih =>
    exact List.forall_mem_append.mpr ⟨ih, List.forall_mem_singleton.mpr (one digit)⟩
  | spaced before digit ih =>
    exact List.forall_mem_append.mpr
      ⟨ih, List.forall_mem_cons.mpr ⟨by decide, List.forall_mem_singleton.mpr (one digit)⟩⟩

/-- Neither signs nor digits are blanks, so that trimming leaves them. -/
theorem trimBy_numeral {before after : List Char} (front : ∀ c ∈ before, isNumberGap c)
    (back : ∀ c ∈ after, isNumberGap c) (signs : Signs sign m n) (written : Digits digits m) :
    trimBy isNumberGap (before ++ (sign ++ digits) ++ after) = sign ++ digits := by
  obtain ⟨c, more, starts, first⟩ := written.head_digit
  obtain ⟨init, c', ends, last⟩ := written.last_digit
  refine trimBy_around front back ?_ ⟨sign ++ init, c', ?_, not_gap_of_digit last⟩
  · cases signs with
    | none => exact ⟨c, more, starts, not_gap_of_digit first⟩
    | plus => exact ⟨'+', digits, rfl, by decide⟩
    | minus => exact ⟨'-', digits, rfl, by decide⟩
  · rw [ends, List.append_assoc]

/-- No sign is a digit. -/
theorem ne_sign_of_digit {c : Char} (digit : (digitValue? c).isSome) : c ≠ '-' ∧ c ≠ '+' := by
  constructor
  · rintro rfl
    cases digit
  · rintro rfl
    cases digit

theorem leadingDigits_eq (signs : Signs sign m n) (written : Digits digits m)
    (trimmed : trimBy isNumberGap cs = sign ++ digits) : leadingDigits cs = digits.countP isDigit := by
  have whole : (digits.takeWhile fun c => isDigit c || c == '_') = digits :=
    List.takeWhile_eq_self_iff.mpr written.all
  rw [leadingDigits, trimmed]
  cases signs with
  | plus => exact congrArg _ whole
  | minus => exact congrArg _ whole
  | none =>
    obtain ⟨c, more, rfl, first⟩ := written.head_digit
    obtain ⟨not_minus, not_plus⟩ := ne_sign_of_digit first
    rw [List.nil_append]
    split
    · rename_i same
      exact absurd (List.cons.inj same).1 not_minus
    · rename_i same
      exact absurd (List.cons.inj same).1 not_plus
    · exact congrArg _ whole

/-- What is read when the blanks are gone. -/
theorem signed_eq (signs : Signs sign m n) (written : Digits digits m) :
    (match sign ++ digits with
      | '-' :: rest => (natural? rest).map fun n => -(n : Int)
      | '+' :: rest => (natural? rest).map Int.ofNat
      | cs => (natural? cs).map Int.ofNat) = some n := by
  have natural := natural?_eq_some_iff.mpr written
  cases signs with
  | plus => simp [natural]
  | minus => simp [natural]
  | none =>
    obtain ⟨c, more, rfl, first⟩ := written.head_digit
    obtain ⟨not_minus, not_plus⟩ := ne_sign_of_digit first
    rw [List.nil_append]
    split
    · rename_i same
      exact absurd (List.cons.inj same).1 not_minus
    · rename_i same
      exact absurd (List.cons.inj same).1 not_plus
    · rw [natural]
      rfl

theorem integer?_eq_some_iff : integer? s = some n ↔ Numeral s n := by
  constructor
  · intro read
    obtain ⟨before, after, around, front, back⟩ := exists_trimmed isNumberGap s.toList
    unfold integer? at read
    split at read
    · cases read
    rename_i few
    have numeral {sign digits : List Char} {m : Nat} (signs : Signs sign m n) (written : Digits digits m)
        (trimmed : trimBy isNumberGap s.toList = sign ++ digits) : Numeral s n := by
      rw [leadingDigits_eq signs written trimmed, Nat.not_lt] at few
      exact ⟨before, sign, digits, after, m, trimmed ▸ around, front, back, signs, written, few⟩
    split at read
    · rename_i digits trimmed
      obtain ⟨_, found, rfl⟩ := Option.map_eq_some_iff.mp read
      obtain ⟨m, natural, same⟩ := Option.bind_eq_some_iff.mp found
      cases same
      exact numeral (.minus m) (natural?_eq_some_iff.mp natural) trimmed
    · rename_i digits trimmed
      obtain ⟨m, natural, rfl⟩ := Option.map_eq_some_iff.mp read
      exact numeral (.plus m) (natural?_eq_some_iff.mp natural) trimmed
    · obtain ⟨m, natural, rfl⟩ := Option.map_eq_some_iff.mp read
      exact numeral (.none m) (natural?_eq_some_iff.mp natural) rfl
  · rintro ⟨before, sign, digits, after, m, text, front, back, signs, written, few⟩
    have trimmed := trimBy_numeral front back signs written
    rw [← text] at trimmed
    rw [integer?, leadingDigits_eq signs written trimmed, if_neg (Nat.not_lt.mpr few), trimmed]
    exact signed_eq signs written

theorem Numeral.unique {n' : Int} (first : Numeral s n) (second : Numeral s n') : n = n' :=
  Option.some.inj ((integer?_eq_some_iff.mpr first).symm.trans (integer?_eq_some_iff.mpr second))

/-- A numeral has a digit, so that it is never blank. -/
theorem Numeral.not_blank (numeral : Numeral s n) : isBlankText s = false := by
  obtain ⟨before, sign, digits, after, m, text, -, -, -, written, -⟩ := numeral
  obtain ⟨c, more, rfl, first⟩ := written.head_digit
  rw [isBlankText, List.all_eq_false]
  exact ⟨c, by simp [text], by simp [not_blank_of_digit first]⟩

end Integers

end PageHarvest.Text
