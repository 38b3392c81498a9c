import InfraPolicy.Condition.Operator
import InfraPolicy.Proofs.TrimmedText

/-!
# Names in lower case

A name is compared in lower case and without the blanks around it, and some names are brought into
this form twice. For a word in ASCII the second time changes nothing
(`Operator.normalForm_normalForm_eq_iff`), because hardly anything beyond ASCII has a lower-case
form within it: of single characters only the sign for Kelvin, which becomes a `k`.

What is used of the table of case is checked run by run (`CaseRun.isModest`).
-/

namespace InfraPolicy

namespace Unicode

/-! ### The table -/

/-- The ranges of blank code points. -/
def blankRanges : List (Nat × Nat) :=
  [(9, 13), (0x20, 0x20), (0x85, 0x85), (0xA0, 0xA0), (0x1680, 0x1680), (0x2000, 0x200A),
    (0x2028, 0x2029), (0x202F, 0x202F), (0x205F, 0x205F), (0x3000, 0x3000)]

/-- The blanks, in ranges of code points. -/
theorem isBlank_iff {c : Char} :
    Text.isBlank c = true ↔ ∃ range ∈ blankRanges, range.1 ≤ c.toNat ∧ c.toNat ≤ range.2 := by
  simp only [Text.isBlank, Bool.or_eq_true, Bool.and_eq_true, decide_eq_true_eq, beq_iff_eq,
    blankRanges, List.exists_mem_cons_iff, List.not_mem_nil, false_and, exists_false, or_false]
  omega

/-- A run leads to no blank, and from beyond ASCII into it only to the letter `k`. -/
def CaseRun.isModest (run : CaseRun) : Bool :=
  (run.last < 128 || 128 ≤ run.first + run.distance ||
    (run.first == run.last && run.first + run.distance == 'k'.toNat)) &&
  blankRanges.all fun range =>
    run.last + run.distance < range.1 || range.2 < run.first + run.distance

set_option maxRecDepth 20000 in
theorem isModest_of_mem_lowercaseRuns {run : CaseRun} (h : run ∈ lowercaseRuns) :
    run.isModest = true := by
  -- the characters of the table are given to the kernel as a list, which it can work through
  obtain ⟨cs, hcs, hmodest⟩ : ∃ cs, lowercaseTable = String.ofList cs ∧
      ((((cs.filter fun c => !c.isWhitespace).splitOn ',').filter fun entry =>
        !entry.isEmpty).map CaseRun.ofEntry).all CaseRun.isModest = true :=
    ⟨_, rfl, by decide +kernel⟩
  rw [lowercaseRuns, CodeSet.entries, hcs, String.toList_ofList] at h
  exact List.all_eq_true.mp hmodest run h

/-- A code point moves with a run that covers it, or stays. -/
theorem moveBy_eq_or_exists (runs : List CaseRun) (n : Nat) :
    moveBy runs n = n ∨ ∃ run ∈ runs, run.first ≤ n ∧ n ≤ run.last ∧
      moveBy runs n = (n + run.distance).toNat := by
  induction runs with
  | nil => exact .inl rfl
  | cons run runs ih =>
    rw [moveBy]
    split_ifs with hcovers
    · simp only [CaseRun.covers, Bool.and_eq_true, decide_eq_true_eq] at hcovers
      exact .inr ⟨run, List.mem_cons_self, hcovers.1.1, hcovers.1.2, rfl⟩
    · obtain h | ⟨other, hmem, hother⟩ := ih
      · exact .inl h
      · exact .inr ⟨other, List.mem_cons_of_mem _ hmem, hother⟩

/-- Beyond ASCII the only letter within it that a character is moved to is that of the sign for
Kelvin. -/
theorem moveBy_of_beyond {n : Nat} (hn : 128 ≤ n) :
    128 ≤ moveBy lowercaseRuns n ∨ moveBy lowercaseRuns n = 'k'.toNat := by
  obtain h | ⟨run, hmem, hfirst, hlast, h⟩ := moveBy_eq_or_exists lowercaseRuns n
  · exact .inl (hn.trans_eq h.symm)
  · have hmodest := isModest_of_mem_lowercaseRuns hmem
    simp only [CaseRun.isModest, Bool.and_eq_true, Bool.or_eq_true, decide_eq_true_eq,
      beq_iff_eq] at hmodest
    rw [h]
    omega

/-- No code point moves to a blank one. -/
theorem blankRange_of_moveBy {n : Nat} {range : Nat × Nat} (hrange : range ∈ blankRanges)
    (h : range.1 ≤ moveBy lowercaseRuns n ∧ moveBy lowercaseRuns n ≤ range.2) :
    range.1 ≤ n ∧ n ≤ range.2 := by
  obtain hstays | ⟨run, hmem, hfirst, hlast, hmoves⟩ := moveBy_eq_or_exists lowercaseRuns n
  · rwa [hstays] at h
  · have hmodest := isModest_of_mem_lowercaseRuns hmem
    simp only [CaseRun.isModest, Bool.and_eq_true, List.all_eq_true] at hmodest
    have havoids := hmodest.2 range hrange
    have hpos : ∀ range ∈ blankRanges, 0 < range.1 := by decide
    have := hpos range hrange
    simp only [Bool.or_eq_true, decide_eq_true_eq] at havoids
    rw [hmoves] at h
    omega

/-! ### The image of one character -/

theorem toNat_ofNat_eq_or (m : Nat) : (Char.ofNat m).toNat = m ∨ Char.ofNat m = Char.ofNat 0 := by
  by_cases hvalid : m.isValidChar
  · exact .inl (by rw [Char.ofNat, dif_pos hvalid]; rfl)
  · exact .inr (by rw [Char.ofNat, dif_neg hvalid]; rfl)

/-- What the characters that stand for `c` in lower case have to do with it. -/
structure IsImage (c : Char) (image : List Char) : Prop where
  ne_nil : image ≠ []
  eq_of_ascii : c.toNat < 128 → image = [Number.lowerAscii c]
  exists_of_beyond : 128 ≤ c.toNat → ∃ d ∈ image, 128 ≤ d.toNat ∨ d = 'k' ∨ d = Char.ofNat 0
  lowerAscii_eq : ∀ d ∈ image, d.toNat < 128 → Number.lowerAscii d = d
  isBlank_eq_false : Text.isBlank c = false → ∀ d ∈ image, Text.isBlank d = false

/-- A character beyond ASCII whose image is a single one. -/
theorem IsImage.singleton {c d : Char} (hc : 128 ≤ c.toNat)
    (hd : 128 ≤ d.toNat ∨ d = 'k' ∨ d = Char.ofNat 0)
    (hblank : Text.isBlank d = true → Text.isBlank c = true) : IsImage c [d] where
  ne_nil := List.cons_ne_nil d []
  eq_of_ascii h := absurd hc (Nat.not_le.mpr h)
  exists_of_beyond _ := ⟨d, List.mem_singleton_self d, hd⟩
  lowerAscii_eq := by
    rintro _ hmem hascii
    obtain rfl := List.mem_singleton.mp hmem
    obtain h | rfl | rfl := hd
    · omega
    · rfl
    · rfl
  isBlank_eq_false h := by
    rintro _ hmem
    obtain rfl := List.mem_singleton.mp hmem
    exact Bool.eq_false_iff.mpr fun hd => Bool.eq_false_iff.mp h (hblank hd)

theorem isImage_lowerAscii {c : Char} (hc : c.toNat < 128) :
    IsImage c [Number.lowerAscii c] := by
  have htable : ∀ n < 128, (Number.lowerAscii (Number.lowerAscii (Char.ofNat n)) =
      Number.lowerAscii (Char.ofNat n)) ∧ (Text.isBlank (Char.ofNat n) = false →
      Text.isBlank (Number.lowerAscii (Char.ofNat n)) = false) := by decide
  have hfacts := htable c.toNat hc
  rw [Char.ofNat_toNat] at hfacts
  exact {
    ne_nil := List.cons_ne_nil _ []
    eq_of_ascii := fun _ => rfl
    exists_of_beyond := fun h => absurd h (Nat.not_le.mpr hc)
    lowerAscii_eq := fun d hd _ => List.mem_singleton.mp hd ▸ hfacts.1
    isBlank_eq_false := fun h d hd => List.mem_singleton.mp hd ▸ hfacts.2 h }

theorem isImage_moved {c : Char} (hc : 128 ≤ c.toNat) :
    IsImage c [Char.ofNat (moveBy lowercaseRuns c.toNat)] := by
  obtain h | h := toNat_ofNat_eq_or (moveBy lowercaseRuns c.toNat)
  · refine .singleton hc ?_ fun hblank => ?_
    · rw [h]
      obtain hbeyond | hk := moveBy_of_beyond hc
      · exact .inl hbeyond
      · exact .inr (.inl (by rw [hk, Char.ofNat_toNat]))
    · obtain ⟨range, hrange, hin⟩ := isBlank_iff.mp hblank
      exact isBlank_iff.mpr ⟨range, hrange, blankRange_of_moveBy hrange (h ▸ hin)⟩
  · rw [h]
    exact .singleton hc (.inr (.inr rfl)) fun hblank => absurd hblank (by decide)

/-- **What the lower case of a character can be**, for every character. -/
theorem isImage_lowerChar (c : Char) : IsImage c (lowerChar c) := by
  rw [lowerChar]
  split_ifs with hascii hdotted
  · exact isImage_lowerAscii hascii
  · have hc : 128 ≤ c.toNat := Nat.not_lt.mp hascii
    exact {
      ne_nil := List.cons_ne_nil _ _
      eq_of_ascii := fun h => absurd h hascii
      exists_of_beyond := fun _ => ⟨Char.ofNat 0x307, by simp, by decide⟩
      lowerAscii_eq :=
        List.forall_mem_cons.mpr ⟨fun _ => rfl, List.forall_mem_singleton.mpr fun _ => rfl⟩
      isBlank_eq_false := fun _ =>
        List.forall_mem_cons.mpr ⟨rfl, List.forall_mem_singleton.mpr rfl⟩ }
  · exact isImage_moved (Nat.not_lt.mp hascii)

/-- A text in lower case begins with the image of its first character. -/
theorem lowerAfter_cons (before : List Char) (c : Char) (rest : List Char) :
    ∃ image, IsImage c image ∧
      lowerAfter before (c :: rest) = image ++ lowerAfter (c :: before) rest := by
  refine ⟨_, ?_, rfl⟩
  split
  · next hsigma =>
    have hc : 128 ≤ c.toNat := by
      rw [beq_iff_eq.mp hsigma]
      decide
    split
    · exact .singleton hc (by decide) fun hblank => absurd hblank (by decide)
    · exact .singleton hc (by decide) fun hblank => absurd hblank (by decide)
  · exact isImage_lowerChar c

/-! ### Texts -/

/-- On ASCII the lower case is taken letter by letter. -/
theorem lowerAfter_of_ascii {cs : List Char} (hascii : ∀ c ∈ cs, c.toNat < 128) :
    ∀ before, lowerAfter before cs = cs.map Number.lowerAscii := by
  induction cs with
  | nil => exact fun _ => rfl
  | cons c rest ih =>
    intro before
    obtain ⟨image, himage, heq⟩ := lowerAfter_cons before c rest
    rw [heq, himage.eq_of_ascii (hascii c List.mem_cons_self),
      ih (fun d hd => hascii d (List.mem_cons_of_mem c hd))]
    rfl

/-- The characters of ASCII that are no image of one beyond it. -/
def IsPlain (c : Char) : Prop :=
  c.toNat < 128 ∧ c ≠ 'k' ∧ c ≠ Char.ofNat 0

instance : DecidablePred IsPlain := fun _ => inferInstanceAs (Decidable (_ ∧ _ ∧ _))

/-- A text whose lower case is plain was in ASCII. -/
theorem ascii_of_isPlain_lowerAfter {cs before : List Char}
    (hplain : ∀ d ∈ lowerAfter before cs, IsPlain d) : ∀ c ∈ cs, c.toNat < 128 := by
  induction cs generalizing before with
  | nil => simp
  | cons c rest ih =>
    obtain ⟨image, himage, heq⟩ := lowerAfter_cons before c rest
    rw [heq] at hplain
    rintro d (_ | ⟨_, hd⟩)
    · by_contra hbeyond
      obtain ⟨e, he, hmistaken⟩ := himage.exists_of_beyond (Nat.not_lt.mp hbeyond)
      obtain ⟨hlt, hk, hnull⟩ := hplain e (List.mem_append_left _ he)
      obtain h | h | h := hmistaken
      · omega
      · exact hk h
      · exact hnull h
    · exact ih (fun e he => hplain e (List.mem_append_right image he)) d hd

/-- The lower case has no capitals left. -/
theorem lowerAscii_of_mem_lowerAfter {cs before : List Char} {d : Char}
    (hd : d ∈ lowerAfter before cs) (hascii : d.toNat < 128) : Number.lowerAscii d = d := by
  induction cs generalizing before with
  | nil => simp [lowerAfter] at hd
  | cons c rest ih =>
    obtain ⟨image, himage, heq⟩ := lowerAfter_cons before c rest
    rw [heq, List.mem_append] at hd
    obtain hd | hd := hd
    · exact himage.lowerAscii_eq d hd hascii
    · exact ih hd

/-- Nothing changes when a text in lower case that is ASCII is put into lower case once more. -/
theorem lowerAfter_lowerAfter_of_ascii {cs before : List Char}
    (hascii : ∀ d ∈ lowerAfter before cs, d.toNat < 128) :
    lowerAfter [] (lowerAfter before cs) = lowerAfter before cs := by
  rw [lowerAfter_of_ascii hascii]
  exact (List.map_congr_left fun d hd =>
    lowerAscii_of_mem_lowerAfter hd (hascii d hd)).trans (List.map_id _)

/-! ### Blanks at the ends -/

/-- Lower-casing does not turn the first character into a blank. -/
theorem isBlank_head_lowerAfter {cs before : List Char}
    (hfirst : ∀ c, cs.head? = some c → Text.isBlank c = false) :
    ∀ d, (lowerAfter before cs).head? = some d → Text.isBlank d = false := by
  cases cs with
  | nil => simp [lowerAfter]
  | cons c rest =>
    obtain ⟨image, himage, heq⟩ := lowerAfter_cons before c rest
    intro d hd
    rw [heq, List.head?_append_of_ne_nil _ himage.ne_nil] at hd
    exact himage.isBlank_eq_false (hfirst c rfl) d (List.mem_of_head? hd)

/-- Lower-casing does not turn the last character into a blank. -/
theorem isBlank_getLast_lowerAfter {cs before : List Char}
    (hlast : ∀ c, cs.getLast? = some c → Text.isBlank c = false) :
    ∀ d, (lowerAfter before cs).getLast? = some d → Text.isBlank d = false := by
  induction cs generalizing before with
  | nil => simp [lowerAfter]
  | cons c rest ih =>
    obtain ⟨image, himage, heq⟩ := lowerAfter_cons before c rest
    intro d hd
    rw [heq] at hd
    cases rest with
    | nil =>
      rw [lowerAfter, List.append_nil] at hd
      exact himage.isBlank_eq_false (hlast c rfl) d (List.mem_of_getLast? hd)
    | cons c' rest =>
      -- the images of the rest are not empty, so the last character is one of theirs
      obtain ⟨image', himage', heq'⟩ := lowerAfter_cons (c :: before) c' rest
      have hne : lowerAfter (c :: before) (c' :: rest) ≠ [] := by
        rw [heq']
        exact List.append_ne_nil_of_left_ne_nil himage'.ne_nil _
      rw [List.getLast?_append_of_ne_nil _ hne] at hd
      exact ih (by simpa using hlast) d hd

end Unicode

namespace Text

/-- A trimmed text stays trimmed in lower case. -/
theorem trimChars_lowerAfter_trimChars (cs : List Char) :
    trimChars (Unicode.lowerAfter [] (trimChars cs)) = Unicode.lowerAfter [] (trimChars cs) :=
  trimChars_eq_self (Unicode.isBlank_head_lowerAfter fun _ => isBlank_head_trimChars)
    (Unicode.isBlank_getLast_lowerAfter fun _ => isBlank_getLast_trimChars)

end Text

namespace Operator

theorem normalForm_eq_iff {text word : String} :
    normalForm text = word ↔
      Unicode.lowerAfter [] (Text.trimChars text.toList) = word.toList := by
  rw [normalForm, Unicode.lower, Text.trim, String.toList_ofList]
  exact ⟨fun h => by rw [← h, String.toList_ofList], fun h => by rw [h, String.ofList_toList]⟩

/-- A name that has been normalised is a plain word exactly when normalising it once more gives
this word. -/
theorem normalForm_normalForm_eq_iff {text word : String}
    (hword : ∀ c ∈ word.toList, Unicode.IsPlain c) :
    normalForm (normalForm text) = word ↔ normalForm text = word := by
  have hlist : (normalForm text).toList = Unicode.lowerAfter [] (Text.trimChars text.toList) :=
    (normalForm_eq_iff.mp rfl).symm
  rw [normalForm_eq_iff, hlist, Text.trimChars_lowerAfter_trimChars, normalForm_eq_iff]
  constructor
  · intro h
    -- what becomes a plain word was in ASCII already
    have hascii := Unicode.ascii_of_isPlain_lowerAfter (h ▸ hword)
    rwa [Unicode.lowerAfter_lowerAfter_of_ascii hascii] at h
  · intro h
    rwa [Unicode.lowerAfter_lowerAfter_of_ascii fun d hd => (hword d (h ▸ hd)).1]

theorem isPlain_of_mem_name (op : Operator) : ∀ c ∈ op.name.toList, Unicode.IsPlain c := by
  have hall : op.name.toList.all (fun c => decide (Unicode.IsPlain c)) = true := by
    cases op <;> decide
  exact fun c hc => of_decide_eq_true (List.all_eq_true.mp hall c hc)

/-- A normalised name is read as the operator that has exactly this name. -/
theorem ofName?_normalForm_eq_some_iff {text : String} {op : Operator} :
    ofName? (normalForm text) = some op ↔ normalForm text = op.name := by
  rw [← normalForm_normalForm_eq_iff (isPlain_of_mem_name op), ofName?]
  generalize normalForm (normalForm text) = form
  constructor
  · intro h
    have hname := List.find?_some h
    rw [beq_iff_eq] at hname
    exact hname.symm
  · rintro rfl
    cases op <;> decide

end Operator

end InfraPolicy
