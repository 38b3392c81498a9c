import InfraPolicy.Json.Reader
import InfraPolicy.Json.Writer
import Mathlib.Data.List.Basic
import Mathlib.Data.List.DropRight
import Mathlib.Data.List.TakeWhile
import Mathlib.Tactic.IntervalCases

/-!
# JSON that is written and read

Reading the text of a document gives the document back (`Json.parse?_prettyText`), whatever the
strings in it. The readers are followed from the inside out: the characters of a string, the digits
of an integer, and then values, items and members, each with any text behind it. That text must not
go on with a character of numbers, since an integer ends where such characters do, and the fuel
must last for what is read.

Documents with floats are left out: their digits are a matter of rounding.
-/

namespace InfraPolicy.Json

/-! ### Integers -/

/-- The digits of a positive number do not begin with a zero. -/
theorem head?_toDigits_ne {n : Nat} (h : 0 < n) : (Nat.toDigits 10 n).head? ≠ some '0' := by
  have hdigit : ∀ m < 10, 0 < m → m.digitChar ≠ '0' := by decide
  induction n using Nat.strongRecOn with
  | ind n ih =>
    rw [Nat.toDigits_eq_if (by decide)]
    split_ifs with hlt
    · rw [List.head?_cons, Ne, Option.some_inj]
      exact hdigit n hlt h
    · have hfront := ih (n / 10) (by omega) (by omega)
      obtain ⟨c, cs, hcons⟩ := List.exists_cons_of_ne_nil (@Nat.toDigits_ne_nil (n / 10) 10)
      rw [hcons] at hfront ⊢
      exact hfront

theorem plainDigits_toDigits (n : Nat) : plainDigits (Nat.toDigits 10 n) = true := by
  have hdigits : (Nat.toDigits 10 n).all Number.isDigit = true :=
    List.all_eq_true.mpr fun c hc => Number.isDigit_of_mem_toDigits hc
  rw [plainDigits, hdigits]
  rcases Nat.eq_zero_or_pos n with rfl | hpos
  · rfl
  · simp [head?_toDigits_ne hpos, Nat.toDigits_ne_nil]

/-- Plain digits are read as the natural that they denote, or as its negative after a minus. -/
theorem readNumber?_plainDigits {ds : List Char} (h : plainDigits ds = true) :
    readNumber? ds = some (.int (Number.ofDigits 10 ds)) ∧
      readNumber? ('-' :: ds) = some (.int (-Number.ofDigits 10 ds)) := by
  have hdigits : ∀ c ∈ ds, Number.isDigit c = true := by
    simp only [plainDigits, Bool.and_eq_true, List.all_eq_true] at h
    exact h.1.2
  have hwhole : ds.takeWhile Number.isDigit = ds := List.takeWhile_eq_self_iff.mpr hdigits
  have hrest : ds.dropWhile Number.isDigit = [] := List.dropWhile_eq_nil_iff.mpr hdigits
  have hsign : ∀ r, ds ≠ '-' :: r := by
    rintro r rfl
    exact absurd (hdigits '-' List.mem_cons_self) (by decide)
  refine ⟨?_, ?_⟩
  · rw [readNumber?, hwhole, hrest, h]
    · rfl
    · exact hsign
  · rw [readNumber?, hwhole, hrest, h]
    rfl

/-- An integer comes back from its digits and its sign. -/
theorem readNumber?_toString (n : Int) : readNumber? (toString n).toList = some (.int n) := by
  have hread : ∀ m : Nat, _ := fun m => readNumber?_plainDigits (plainDigits_toDigits m)
  simp only [Number.ofDigits_toDigits] at hread
  rw [Int.toString_eq_repr, Int.repr_eq_if]
  split_ifs with hsign
  · rw [Nat.toList_repr, (hread _).1, Int.toNat_of_nonneg hsign]
  · rw [String.toList_append, Nat.toList_repr]
    exact ((hread _).2).trans (by rw [Int.toNat_of_nonneg (by omega), Int.neg_neg])

/-! ### Strings -/

/-- **A character comes back from the way it is written**, whatever follows. -/
theorem readString_escapeChar (c : Char) (rest : List Char) :
    readString (escapeChar c ++ rest) = (readString rest).map fun p => (c :: p.1, p.2) := by
  by_cases hquote : c = '"'
  · subst hquote
    exact readString_short rfl rest
  by_cases hslash : c = '\\'
  · subst hslash
    exact readString_short rfl rest
  by_cases hcontrol : c.toNat < 0x20
  · -- Of the control characters some have a letter, the others four digits.
    rw [← Char.ofNat_toNat c]
    generalize c.toNat = n at hcontrol
    interval_cases n <;>
      first | exact readString_short rfl rest | exact readString_unicode rfl (by decide) rest
  · simp only [escapeChar, beq_iff_eq, hquote, hslash, hcontrol, if_false]
    exact readString_plain hquote hslash hcontrol rest

/-- A text in quotes is read back, whatever follows. -/
theorem readString_quote (s : String) (rest : List Char) :
    readString (s.toList.flatMap escapeChar ++ '"' :: rest) = some (s.toList, rest) := by
  induction s.toList with
  | nil => rw [List.flatMap_nil, List.nil_append, readString]
  | cons c cs ih =>
    rw [List.flatMap_cons, List.append_assoc, readString_escapeChar, ih, Option.map_some]

/-! ### White space -/

theorem skipSpace_cons {c : Char} (h : isSpace c = false) (cs : List Char) :
    skipSpace (c :: cs) = c :: cs :=
  List.dropWhile_cons_of_neg (by simp [h])

/-- The indentation of a line is white space. -/
theorem skipSpace_newline (depth : Nat) (cs : List Char) :
    skipSpace (newline depth ++ cs) = skipSpace cs := by
  refine List.dropWhile_append_of_pos fun c hc => ?_
  rcases List.mem_cons.mp hc with rfl | hc
  · rfl
  · rw [List.eq_of_mem_replicate hc]
    rfl

theorem skipSpace_skipSpace (cs : List Char) : skipSpace (skipSpace cs) = skipSpace cs :=
  List.dropWhile_idempotent _ cs

theorem readValue_skipSpace (fuel : Nat) (cs : List Char) :
    readValue fuel (skipSpace cs) = readValue fuel cs := by
  cases fuel with
  | zero => rw [readValue, readValue]
  | succ fuel => rw [readValue, readValue, skipSpace_skipSpace]

theorem readItems_skipSpace (fuel : Nat) (cs : List Char) :
    readItems fuel (skipSpace cs) = readItems fuel cs := by
  cases fuel with
  | zero => rw [readItems, readItems]
  | succ fuel => rw [readItems, readItems, readValue_skipSpace]

theorem readMembers_skipSpace (fuel : Nat) (cs : List Char) :
    readMembers fuel (skipSpace cs) = readMembers fuel cs := by
  cases fuel with
  | zero => rw [readMembers, readMembers]
  | succ fuel => rw [readMembers, readMembers, skipSpace_skipSpace]

/-! ### Numbers in a text -/

/-- A text that does not continue a number. -/
def stopsNumber (cs : List Char) : Bool :=
  cs.head?.all fun c => !isNumberChar c

theorem isNumberChar_of_mem_toString {n : Int} {c : Char} (h : c ∈ (toString n).toList) :
    isNumberChar c = true := by
  have hdigit : ∀ m : Nat, c ∈ m.repr.toList → isNumberChar c = true := by
    intro m hc
    rw [Nat.toList_repr] at hc
    simp [isNumberChar, Number.isDigit_of_mem_toDigits hc]
  rw [Int.toString_eq_repr, Int.repr_eq_if] at h
  split_ifs at h
  · exact hdigit _ h
  · rw [String.toList_append] at h
    rcases List.mem_append.mp h with hminus | hdigits
    · rw [List.mem_singleton.mp hminus]
      rfl
    · exact hdigit _ hdigits

theorem isSpace_of_isNumberChar {c : Char} (h : isNumberChar c = true) : isSpace c = false := by
  rw [Bool.eq_false_iff]
  intro hspace
  simp only [isSpace, Bool.or_eq_true, beq_iff_eq] at hspace
  rcases hspace with ((rfl | rfl) | rfl) | rfl <;> exact absurd h (by decide)

theorem exists_toString_eq_cons (n : Int) :
    ∃ c cs, (toString n).toList = c :: cs ∧ isNumberChar c = true := by
  have hchars : ∀ c ∈ (toString n).toList, isNumberChar c = true :=
    fun c hc => isNumberChar_of_mem_toString hc
  have hread := readNumber?_toString n
  cases htext : (toString n).toList with
  | nil =>
    rw [htext] at hread
    exact absurd hread (by simp [readNumber?, plainDigits])
  | cons c cs => exact ⟨c, cs, rfl, hchars c (htext ▸ List.mem_cons_self)⟩

/-- What begins with none of the other signs of values is read as a number. -/
theorem readValue_number (fuel : Nat) {c : Char} (h : isNumberChar c = true) (cs : List Char) :
    readValue (fuel + 1) (c :: cs) =
      (readNumber? ((c :: cs).takeWhile isNumberChar)).map
        (·, (c :: cs).dropWhile isNumberChar) := by
  rw [readValue, skipSpace_cons (isSpace_of_isNumberChar h)]
  split
  case h_7 => cases readNumber? ((c :: cs).takeWhile isNumberChar) <;> rfl
  all_goals
    next heq =>
      rw [(List.cons.inj heq).1] at h
      exact absurd h (by decide)

/-- An integer is read back if no character follows that could belong to it. -/
theorem readValue_toString (fuel : Nat) (n : Int) {rest : List Char} (h : stopsNumber rest = true) :
    readValue (fuel + 1) ((toString n).toList ++ rest) = some (.int n, rest) := by
  have hchars : ∀ c ∈ (toString n).toList, isNumberChar c = true :=
    fun c hc => isNumberChar_of_mem_toString hc
  have htake : ((toString n).toList ++ rest).takeWhile isNumberChar = (toString n).toList := by
    rw [List.takeWhile_append_of_pos hchars]
    cases rest with
    | nil => simp
    | cons c cs => simp_all [stopsNumber]
  have hdrop : ((toString n).toList ++ rest).dropWhile isNumberChar = rest := by
    rw [List.dropWhile_append_of_pos hchars]
    cases rest with
    | nil => rfl
    | cons c cs => simp_all [stopsNumber]
  obtain ⟨c, cs, htext, hc⟩ := exists_toString_eq_cons n
  have hread := readValue_number fuel hc (cs ++ rest)
  rw [← List.cons_append, ← htext, htake, hdrop, readNumber?_toString] at hread
  exact hread

/-! ### Values -/

/-- A string is read back. -/
theorem readValue_quote (fuel : Nat) (s : String) (rest : List Char) :
    readValue (fuel + 1) (quote s ++ rest) = some (.string s, rest) := by
  rw [quote, List.append_assoc, List.cons_append, List.singleton_append, readValue,
    skipSpace_cons rfl]
  simp only [readString_quote, Option.bind_eq_bind, Option.bind_some, String.ofList_toList]

/-- Items are read after a bracket that is not closed at once. -/
theorem readValue_bracket (fuel : Nat) {cs : List Char} (h : (skipSpace cs).head? ≠ some ']') :
    readValue (fuel + 1) ('[' :: cs) = (readItems fuel cs).map fun p => (.array p.1, p.2) := by
  rw [readValue, skipSpace_cons rfl, ← readItems_skipSpace]
  simp only
  split
  · next heq => simp [heq] at h
  · cases readItems fuel (skipSpace cs) <;> rfl

/-- Members are read after a brace that is not closed at once. -/
theorem readValue_brace (fuel : Nat) {cs : List Char} (h : (skipSpace cs).head? ≠ some '\x7d') :
    readValue (fuel + 1) ('\x7b' :: cs) =
      (readMembers fuel cs).map fun p => (.object p.1, p.2) := by
  rw [readValue, skipSpace_cons rfl, ← readMembers_skipSpace]
  simp only
  split
  · next heq => simp [heq] at h
  · cases readMembers fuel (skipSpace cs) <;> rfl

mutual

/-- A document without floats. -/
def hasNoFloat : Json → Bool
  | .float _ => false
  | .array items => haveNoFloat items
  | .object members => membersHaveNoFloat members
  | _ => true

/-- No item has a number with a point in it. -/
def haveNoFloat : List Json → Bool
  | [] => true
  | j :: rest => j.hasNoFloat && haveNoFloat rest

/-- No member has a number with a point in it. -/
def membersHaveNoFloat : List (String × Json) → Bool
  | [] => true
  | (_, j) :: rest => j.hasNoFloat && membersHaveNoFloat rest

end

/-- The text of a value begins with a sign of its own. -/
theorem exists_pretty_eq_cons (depth : Nat) {j : Json} (h : j.hasNoFloat = true) :
    ∃ c cs, j.pretty depth = c :: cs ∧ isSpace c = false ∧ c ≠ ']' := by
  cases j with
  | null => exact ⟨'n', _, rfl, rfl, by decide⟩
  | bool b =>
    cases b with
    | false => exact ⟨'f', _, rfl, rfl, by decide⟩
    | true => exact ⟨'t', _, rfl, rfl, by decide⟩
  | int n =>
    obtain ⟨c, cs, htext, hc⟩ := exists_toString_eq_cons n
    refine ⟨c, cs, htext, isSpace_of_isNumberChar hc, ?_⟩
    rintro rfl
    exact absurd hc (by decide)
  | float x => simp [hasNoFloat] at h
  | string s => exact ⟨'"', _, rfl, rfl, by decide⟩
  | array items =>
    cases items with
    | nil => exact ⟨'[', _, rfl, rfl, by decide⟩
    | cons v rest => exact ⟨'[', _, rfl, rfl, by decide⟩
  | object members =>
    cases members with
    | nil => exact ⟨'\x7b', _, rfl, rfl, by decide⟩
    | cons p rest => exact ⟨'\x7b', _, rfl, rfl, by decide⟩

theorem readValue_newline (fuel depth : Nat) (cs : List Char) :
    readValue fuel (newline depth ++ cs) = readValue fuel cs := by
  rw [← readValue_skipSpace, skipSpace_newline, readValue_skipSpace]

/-- The first item of an array is no closing bracket. -/
theorem head?_skipSpace_prettyItems (depth : Nat) {v : Json} (h : v.hasNoFloat = true)
    (items : List Json) (cs : List Char) :
    (skipSpace (prettyItems depth (v :: items) ++ cs)).head? ≠ some ']' := by
  obtain ⟨c, text, htext, hspace, hne⟩ := exists_pretty_eq_cons depth h
  have hitems : ∃ more, prettyItems depth (v :: items) = newline depth ++ c :: more := by
    cases items with
    | nil => exact ⟨text, by rw [prettyItems, htext]⟩
    | cons w items =>
      exact ⟨text ++ ',' :: prettyItems depth (w :: items), by simp [prettyItems, htext]⟩
  obtain ⟨more, hmore⟩ := hitems
  rw [hmore, List.append_assoc, skipSpace_newline, List.cons_append, skipSpace_cons hspace,
    List.head?_cons, Ne, Option.some_inj]
  exact hne

/-- The first member of an object is no closing brace. -/
theorem head?_skipSpace_prettyMembers (depth : Nat) (p : String × Json)
    (members : List (String × Json)) (cs : List Char) :
    (skipSpace (prettyMembers depth (p :: members) ++ cs)).head? ≠ some '\x7d' := by
  have hmembers : ∃ more,
      prettyMembers depth (p :: members) = newline depth ++ (quote p.1 ++ more) := by
    cases members with
    | nil => exact ⟨_, List.append_assoc ..⟩
    | cons q members => exact ⟨_, (List.append_assoc ..).trans (List.append_assoc ..)⟩
  obtain ⟨more, hmore⟩ := hmembers
  rw [hmore, List.append_assoc, skipSpace_newline, quote, List.cons_append, List.cons_append,
    List.cons_append, skipSpace_cons rfl]
  simp

/-- After an item the list is closed or goes on. -/
theorem readItems_item {fuel : Nat} {v : Json} {text rest rest' : List Char}
    (h : readValue fuel (text ++ rest) = some (v, rest)) (depth : Nat) :
    (skipSpace rest = ']' :: rest' →
      readItems (fuel + 1) (newline depth ++ (text ++ rest)) = some ([v], rest')) ∧
    (skipSpace rest = ',' :: rest' →
      readItems (fuel + 1) (newline depth ++ (text ++ rest)) =
        (readItems fuel rest').bind fun p => some (v :: p.1, p.2)) := by
  rw [readItems, readValue_newline, h, Option.bind_eq_bind, Option.bind_some]
  exact ⟨fun hrest => by simp only [hrest], fun hrest => by simp only [hrest, Option.bind_eq_bind]⟩

/-- After a member the object is closed or goes on. -/
theorem readMembers_member {fuel : Nat} {v : Json} {text rest rest' : List Char}
    (h : readValue fuel (text ++ rest) = some (v, rest)) (depth : Nat) (k : String) :
    (skipSpace rest = '\x7d' :: rest' →
      readMembers (fuel + 1) (newline depth ++ (quote k ++ ':' :: ' ' :: (text ++ rest))) =
        some ([(k, v)], rest')) ∧
    (skipSpace rest = ',' :: rest' →
      readMembers (fuel + 1) (newline depth ++ (quote k ++ ':' :: ' ' :: (text ++ rest))) =
        (readMembers fuel rest').bind fun p => some ((k, v) :: p.1, p.2)) := by
  have hvalue : readValue fuel (' ' :: (text ++ rest)) = some (v, rest) := by
    rw [← readValue_skipSpace, ← h, ← readValue_skipSpace fuel (text ++ rest)]
    rfl
  rw [readMembers, skipSpace_newline, quote, List.append_assoc, List.cons_append,
    List.singleton_append, skipSpace_cons rfl]
  simp only [readString_quote, Option.bind_eq_bind, Option.bind_some, String.ofList_toList,
    skipSpace_cons (c := ':') rfl, hvalue]
  exact ⟨fun hrest => by simp only [hrest], fun hrest => by simp only [hrest]⟩

-- By induction on the fuel: every reader hands on less than it has, and its text is longer than
-- the texts that it hands on.
mutual

/-- **A value comes back from its text**, whatever follows. -/
theorem readValue_pretty : ∀ {fuel : Nat} {j : Json}, j.hasNoFloat = true →
    ∀ {depth : Nat} {rest : List Char}, (j.pretty depth).length ≤ fuel →
      stopsNumber rest = true → readValue fuel (j.pretty depth ++ rest) = some (j, rest)
  | 0, j, h, depth, rest, hfuel, _ => by
    obtain ⟨c, text, htext, -⟩ := exists_pretty_eq_cons depth h
    simp [htext] at hfuel
  | fuel + 1, .null, _, depth, rest, _, _ => by
    rw [readValue]
    rfl
  | fuel + 1, .bool b, _, depth, rest, _, _ => by
    cases b <;> rw [readValue] <;> rfl
  | fuel + 1, .int n, _, depth, rest, _, hrest => readValue_toString fuel n hrest
  | fuel + 1, .string s, _, depth, rest, _, _ => readValue_quote fuel s rest
  | fuel + 1, .array [], _, depth, rest, _, _ => by
    rw [readValue]
    rfl
  | fuel + 1, .object [], _, depth, rest, _, _ => by
    rw [readValue]
    rfl
  | fuel + 1, .array (v :: items), h, depth, rest, hfuel, _ => by
    rw [hasNoFloat] at h
    have hv : v.hasNoFloat = true := by
      rw [haveNoFloat, Bool.and_eq_true] at h
      exact h.1
    have htext : (Json.array (v :: items)).pretty depth ++ rest =
        '[' :: (prettyItems (depth + 1) (v :: items) ++ (newline depth ++ ']' :: rest)) := by
      simp [pretty]
    have hitems : (prettyItems (depth + 1) (v :: items)).length ≤ fuel := by
      simp only [pretty, List.length_append, List.length_cons] at hfuel
      omega
    rw [htext, readValue_bracket fuel (head?_skipSpace_prettyItems _ hv _ _),
      readItems_prettyItems h hitems, Option.map_some]
  | fuel + 1, .object (p :: members), h, depth, rest, hfuel, _ => by
    rw [hasNoFloat] at h
    have htext : (Json.object (p :: members)).pretty depth ++ rest =
        '\x7b' ::
          (prettyMembers (depth + 1) (p :: members) ++ (newline depth ++ '\x7d' :: rest)) := by
      simp [pretty]
    have hmembers : (prettyMembers (depth + 1) (p :: members)).length ≤ fuel := by
      simp only [pretty, List.length_append, List.length_cons] at hfuel
      omega
    rw [htext, readValue_brace fuel (head?_skipSpace_prettyMembers _ _ _ _),
      readMembers_prettyMembers h hmembers, Option.map_some]

/-- Items come back from their text, up to the bracket that closes them. -/
theorem readItems_prettyItems : ∀ {fuel : Nat} {v : Json} {items : List Json},
    haveNoFloat (v :: items) = true →
    ∀ {depth outer : Nat} {rest : List Char}, (prettyItems depth (v :: items)).length ≤ fuel →
      readItems fuel (prettyItems depth (v :: items) ++ (newline outer ++ ']' :: rest)) =
        some (v :: items, rest)
  | 0, _, items, _, _, _, _, hfuel => by
    cases items <;> simp [prettyItems, newline] at hfuel
  | fuel + 1, v, [], h, depth, outer, rest, hfuel => by
    rw [haveNoFloat, Bool.and_eq_true] at h
    simp only [prettyItems, newline, List.length_append, List.length_cons] at hfuel
    have hread : readValue fuel (v.pretty depth ++ (newline outer ++ ']' :: rest)) =
        some (v, newline outer ++ ']' :: rest) := readValue_pretty h.1 (by omega) rfl
    rw [prettyItems, List.append_assoc]
    refine (readItems_item hread depth).1 ?_
    rw [skipSpace_newline, skipSpace_cons rfl]
  | fuel + 1, v, w :: items, h, depth, outer, rest, hfuel => by
    rw [haveNoFloat, Bool.and_eq_true] at h
    have htext : prettyItems depth (v :: w :: items) =
        newline depth ++ (v.pretty depth ++ ',' :: prettyItems depth (w :: items)) := by
      simp [prettyItems]
    simp only [htext, newline, List.length_append, List.length_cons] at hfuel
    have hread : ∀ more, readValue fuel (v.pretty depth ++ ',' :: more) = some (v, ',' :: more) :=
      fun _ => readValue_pretty h.1 (by omega) rfl
    rw [htext, List.append_assoc, List.append_assoc, List.cons_append,
      (readItems_item (hread _) depth).2 (skipSpace_cons rfl _)]
    have hitems : (prettyItems depth (w :: items)).length ≤ fuel := by omega
    simp only [readItems_prettyItems h.2 hitems, Option.bind_some]

/-- Members come back from their text, up to the brace that closes them. -/
theorem readMembers_prettyMembers : ∀ {fuel : Nat} {p : String × Json}
    {members : List (String × Json)}, membersHaveNoFloat (p :: members) = true →
    ∀ {depth outer : Nat} {rest : List Char},
      (prettyMembers depth (p :: members)).length ≤ fuel →
      readMembers fuel (prettyMembers depth (p :: members) ++ (newline outer ++ '\x7d' :: rest)) =
        some (p :: members, rest)
  | 0, _, members, _, _, _, _, hfuel => by
    cases members <;> simp [prettyMembers, newline] at hfuel
  | fuel + 1, (k, v), [], h, depth, outer, rest, hfuel => by
    rw [membersHaveNoFloat, Bool.and_eq_true] at h
    have htext : prettyMembers depth [(k, v)] =
        newline depth ++ (quote k ++ ':' :: ' ' :: v.pretty depth) := by
      simp [prettyMembers]
    simp only [htext, newline, List.length_append, List.length_cons] at hfuel
    have hread : readValue fuel (v.pretty depth ++ (newline outer ++ '\x7d' :: rest)) =
        some (v, newline outer ++ '\x7d' :: rest) := readValue_pretty h.1 (by omega) rfl
    rw [htext, List.append_assoc, List.append_assoc, List.cons_append, List.cons_append]
    refine (readMembers_member hread depth k).1 ?_
    rw [skipSpace_newline, skipSpace_cons rfl]
  | fuel + 1, (k, v), q :: members, h, depth, outer, rest, hfuel => by
    rw [membersHaveNoFloat, Bool.and_eq_true] at h
    have htext : prettyMembers depth ((k, v) :: q :: members) =
        newline depth ++ (quote k ++ ':' :: ' ' ::
          (v.pretty depth ++ ',' :: prettyMembers depth (q :: members))) := by
      simp [prettyMembers]
    simp only [htext, newline, List.length_append, List.length_cons] at hfuel
    have hread : ∀ more, readValue fuel (v.pretty depth ++ ',' :: more) = some (v, ',' :: more) :=
      fun _ => readValue_pretty h.1 (by omega) rfl
    rw [htext, List.append_assoc, List.append_assoc, List.cons_append, List.cons_append,
      List.append_assoc, List.cons_append,
      (readMembers_member (hread _) depth k).2 (skipSpace_cons rfl _)]
    have hmembers : (prettyMembers depth (q :: members)).length ≤ fuel := by omega
    simp only [readMembers_prettyMembers h.2 hmembers, Option.bind_some]

end

/-- **Reading the text of a document gives the document back.** -/
theorem parse?_prettyText {j : Json} (h : j.hasNoFloat = true) : parse? j.prettyText = some j := by
  have hread : readValue ((j.pretty 0).length + 1) (j.pretty 0 ++ []) = some (j, []) :=
    readValue_pretty h (Nat.le_succ _) rfl
  rw [List.append_nil] at hread
  simp only [parse?, prettyText, String.toList_ofList, hread]
  rfl

end InfraPolicy.Json
