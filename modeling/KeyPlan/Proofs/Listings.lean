import KeyPlan.Application.Listing
import KeyPlan.Proofs.Lines
import KeyPlan.Proofs.Parts
import KeyPlan.Proofs.ReadActions

/-!
# Listings line by line

A listing may have lines of any kind. Each of them is cut into fields and read on its own, so a line
that tells of no application cannot spoil the others, and how a line ends does not matter: the
carriage return is a blank at the end of its last field, and fields are trimmed. What is read from a
listing is therefore what its lines tell, in order.

## Main definitions

* `Text.IntNumeral`: a decimal numeral with a sign, and its value
* `Application.Listable`, `Application.row`: an application that a line can hold, and its fields
* `Application.Malformed`: the fields of a line that tells of no application
* `Application.Tells`, `Application.Lists`: what a line and a listing tell

## Main results

* `Text.readInt32?_eq_some_iff`: what is read as a 32-bit integer
* `Application.ofRow?_of_tells`: a line is read as what it tells
* `Application.ofListing_of_lists`: a listing is read as what its lines tell
-/

namespace KeyPlan

namespace Text

/-! ## Numerals with a sign -/

/-- **A decimal numeral of the integer `i`**: ASCII digits, with at most one sign before them. -/
def IntNumeral (s : List Char) (i : Int) : Prop :=
  ∃ ds, ds ≠ [] ∧ (∀ c ∈ ds, c.isDigit = true) ∧
    ((s = ds ∨ s = '+' :: ds) ∧ i = Nat.ofDigitChars 10 ds 0 ∨
      s = '-' :: ds ∧ i = -(Nat.ofDigitChars 10 ds 0 : Int))

theorem isBlank_of_isDigit {c : Char} (h : c.isDigit = true) : isBlank c = false := by
  have hrange : 48 ≤ c.toNat ∧ c.toNat ≤ 57 := by
    simpa [Char.isDigit, UInt32.le_iff_toNat_le] using h
  simp only [isBlank, Bool.or_eq_false_iff, Bool.and_eq_false_iff, decide_eq_false_iff_not,
    beq_eq_false_iff_ne]
  omega

/-- A sign is no digit. -/
theorem sign_not_mem {ds : List Char} (h : ∀ c ∈ ds, c.isDigit = true) : '+' ∉ ds ∧ '-' ∉ ds :=
  ⟨plus_not_mem h, fun hminus => absurd (h '-' hminus) (by decide)⟩

/-- A value is read if it is in range. -/
theorem bind_ofInt_eq_some_iff {m : Option Int} {w : Int32} :
    (m.bind fun i => if Int32.minValue.toInt ≤ i ∧ i ≤ Int32.maxValue.toInt
      then some (Int32.ofInt i) else none) = some w ↔ m = some w.toInt := by
  rw [Option.bind_eq_some_iff]
  constructor
  · rintro ⟨i, rfl, hw⟩
    split at hw
    · next hrange =>
      obtain rfl := Option.some.inj hw
      have hlow : -2 ^ 31 ≤ i := hrange.1
      have hhigh : i ≤ 2 ^ 31 - 1 := hrange.2
      rw [Int32.toInt_ofInt_of_le hlow (by omega)]
    · exact nomatch hw
  · intro h
    have hrange : Int32.minValue.toInt ≤ w.toInt ∧ w.toInt ≤ Int32.maxValue.toInt :=
      ⟨w.minValue_le_toInt, w.toInt_le⟩
    exact ⟨w.toInt, h, by rw [if_pos hrange, Int32.ofInt_toInt]⟩

theorem map_digits?_eq_some_iff {s : List Char} {f : Nat → Int} {i : Int} :
    (digits? s).map f = some i ↔
      s ≠ [] ∧ (∀ c ∈ s, c.isDigit = true) ∧ i = f (Nat.ofDigitChars 10 s 0) := by
  rw [Option.map_eq_some_iff]
  constructor
  · rintro ⟨n, hn, rfl⟩
    obtain ⟨hne, hdigits, rfl⟩ := digits?_eq_some_iff.mp hn
    exact ⟨hne, hdigits, rfl⟩
  · rintro ⟨hne, hdigits, rfl⟩
    exact ⟨_, digits?_eq_some_iff.mpr ⟨hne, hdigits, rfl⟩, rfl⟩

/-- **What is read as a 32-bit integer** is a numeral whose value is in range. -/
theorem readInt32?_eq_some_iff {s : List Char} {w : Int32} :
    readInt32? s = some w ↔ IntNumeral s w.toInt := by
  unfold readInt32?
  dsimp only
  -- the first character decides how the numeral is spelled
  split
  · next r =>
    refine bind_ofInt_eq_some_iff.trans (map_digits?_eq_some_iff.trans ⟨?_, ?_⟩)
    · rintro ⟨hne, hdigits, hi⟩
      exact ⟨r, hne, hdigits, .inl ⟨.inr rfl, hi⟩⟩
    · rintro ⟨ds, hne, hdigits, ⟨hds | hds, hi⟩ | ⟨hds, hi⟩⟩
      · exact absurd (hds ▸ List.mem_cons_self) (sign_not_mem hdigits).1
      · obtain rfl := (List.cons.inj hds).2
        exact ⟨hne, hdigits, hi⟩
      · exact absurd (List.cons.inj hds).1 (by decide)
  · next r =>
    have hneg : Option.map (fun i : Int => -i) (do let n ← digits? r; pure (n : Int)) =
        (digits? r).map fun n : Nat => -(n : Int) := by
      cases digits? r <;> rfl
    refine bind_ofInt_eq_some_iff.trans ?_
    rw [hneg, map_digits?_eq_some_iff]
    constructor
    · rintro ⟨hne, hdigits, hi⟩
      exact ⟨r, hne, hdigits, .inr ⟨rfl, hi⟩⟩
    · rintro ⟨ds, hne, hdigits, ⟨hds | hds, hi⟩ | ⟨hds, hi⟩⟩
      · exact absurd (hds ▸ List.mem_cons_self) (sign_not_mem hdigits).2
      · exact absurd (List.cons.inj hds).1 (by decide)
      · obtain rfl := (List.cons.inj hds).2
        exact ⟨hne, hdigits, hi⟩
  · next hplus hminus =>
    refine bind_ofInt_eq_some_iff.trans (map_digits?_eq_some_iff.trans ⟨?_, ?_⟩)
    · rintro ⟨hne, hdigits, hi⟩
      exact ⟨s, hne, hdigits, .inl ⟨.inl rfl, hi⟩⟩
    · rintro ⟨ds, hne, hdigits, ⟨rfl | hds, hi⟩ | ⟨hds, hi⟩⟩
      · exact ⟨hne, hdigits, hi⟩
      · exact absurd hds (hplus ds)
      · exact absurd hds (hminus ds)

/-- The characters of an integer are digits and the minus sign. -/
theorem of_mem_toString_int {i : Int} {c : Char} (h : c ∈ (toString i).toList) :
    c.isDigit = true ∨ c = '-' := by
  have hdigit {n : Nat} (hc : c ∈ n.repr.toList) : c.isDigit = true := by
    rw [Nat.toList_repr] at hc
    exact Nat.isDigit_of_mem_toDigits (by decide) (by decide) hc
  cases i with
  | ofNat n => exact .inl (hdigit h)
  | negSucc n =>
    have hsign : (toString (Int.negSucc n)).toList = '-' :: (n + 1).repr.toList := by
      rw [Int.toString_eq_repr, Int.repr, String.toList_append]
      rfl
    rw [hsign] at h
    rcases List.mem_cons.mp h with rfl | h
    · exact .inr rfl
    · exact .inl (hdigit h)

/-- **An integer is written as a numeral** of its value. -/
theorem intNumeral_toString (i : Int) : IntNumeral (toString i).toList i := by
  have hdigits (n : Nat) : ∀ c ∈ Nat.toDigits 10 n, c.isDigit = true := fun c hc =>
    Nat.isDigit_of_mem_toDigits (by decide) (by decide) hc
  cases i with
  | ofNat n =>
    refine ⟨_, Nat.toDigits_ne_nil, hdigits n, .inl ⟨.inl Nat.toList_repr, ?_⟩⟩
    rw [Nat.ofDigitChars_ten_toDigits]
    rfl
  | negSucc n =>
    refine ⟨_, Nat.toDigits_ne_nil, hdigits (n + 1), .inr ⟨?_, ?_⟩⟩
    · rw [Int.toString_eq_repr, Int.repr, String.toList_append, Nat.toList_repr]
      rfl
    · rw [Nat.ofDigitChars_ten_toDigits]
      rfl

/-! ## The last piece -/

/-- **What is added at the end of a text** goes to its last piece. -/
theorem exists_pieces_append (cuts : Char → Bool) (s : List Char) :
    ∃ front last, ∀ t, (∀ c ∈ t, cuts c = false) → pieces cuts (s ++ t) = front ++ [last ++ t] := by
  induction s with
  | nil => exact ⟨[], [], fun t ht => pieces_of_forall_not ht⟩
  | cons c s ih =>
    obtain ⟨front, last, hs⟩ := ih
    cases hc : cuts c with
    | true =>
      refine ⟨[] :: front, last, fun t ht => ?_⟩
      rw [List.cons_append, pieces_cons_cut hc, hs t ht]
      rfl
    | false =>
      -- the character belongs to the first piece, which may be the last one as well
      cases front with
      | nil =>
        refine ⟨[], c :: last, fun t ht => ?_⟩
        rw [List.cons_append, pieces_cons_of_not hc, hs t ht]
        rfl
      | cons p front =>
        refine ⟨(c :: p) :: front, last, fun t ht => ?_⟩
        rw [List.cons_append, pieces_cons_of_not hc, hs t ht]
        rfl

end Text

namespace Application

open Text (Blank Solid trim pieces IntNumeral)

/-! ## What lines tell -/

/-- The text fits into a field. -/
def FitsField (s : List Char) : Prop := '\t' ∉ s ∧ '\n' ∉ s

/-- **An application that a line can hold**: its name and its bundle identifier are trimmed texts
that fit into a field, and the identifier is not what stands for an unknown one. -/
structure Listable (a : Application) : Prop where
  name : Solid a.name.toList ∧ FitsField a.name.toList
  bundle : ∀ id ∈ a.bundleId, Solid id.toList ∧ FitsField id.toList ∧ id.toList ≠ missingValue

/-- **The fields of an application**: number, name, bundle identifier and visibility, where
`unknown` stands for an identifier that is not known and `shown` says that it is visible. -/
def row (a : Application) (unknown shown : List Char) : List (List Char) :=
  [(toString a.pid.toInt).toList, a.name.toList, (a.bundleId.map String.toList).getD unknown,
    if a.hidden then "false".toList else shown]

/-- **Fields that tell of no application**: the first one is no 32-bit integer, or the second one is
missing or blank. -/
def Malformed (fields : List (List Char)) : Prop :=
  (∀ pid ∈ fields.head?, ∀ i : Int32, ¬ IntNumeral (trim pid) i.toInt) ∨
    ∀ name ∈ fields[1]?, Blank name

/-- **What a line tells**: an application, or nothing. -/
inductive Tells : List Char → Option Application → Prop where
  | row {a : Application} {unknown shown : List Char} (ha : a.Listable)
      (hunknown : unknown = [] ∨ unknown = missingValue) (hshown : FitsField shown)
      (hvisible : trim shown ≠ "false".toList) :
      Tells (['\t'].intercalate (a.row unknown shown)) (some a)
  | malformed {fields : List (List Char)} (hne : fields ≠ []) (hfields : ∀ f ∈ fields, FitsField f)
      (h : Malformed fields) : Tells (['\t'].intercalate fields) none

/-- **What the lines of a listing tell**, in order. Each line has a line feed behind it, with a
carriage return in front of it or not; the last one need not have one. -/
inductive Lists : List Char → List (Option Application) → Prop where
  | nil : Lists [] []
  | last {line : List Char} {a : Option Application} (h : Tells line a) : Lists line [a]
  | line {line ending text : List Char} {a : Option Application} {told : List (Option Application)}
      (h : Tells line a) (hending : ending = ['\n'] ∨ ending = ['\r', '\n'])
      (rest : Lists text told) : Lists (line ++ ending ++ text) (a :: told)

/-! ## One line -/

/-- The fields that make a line are those that it is cut into. -/
theorem pieces_intercalate {fields : List (List Char)} (hne : fields ≠ [])
    (h : ∀ f ∈ fields, FitsField f) : pieces (· == '\t') (['\t'].intercalate fields) = fields := by
  rw [Text.pieces_eq_splitOnP, ← List.splitOn_eq_splitOnP]
  exact List.splitOn_intercalate '\t' (fun f hf => (h f hf).1) hne

/-- A character of a line is a tabulator or stands in a field. -/
theorem mem_intercalate {c : Char} {fields : List (List Char)}
    (h : c ∈ ['\t'].intercalate fields) : c = '\t' ∨ ∃ f ∈ fields, c ∈ f := by
  induction fields with
  | nil => exact nomatch h
  | cons f fields ih =>
    cases fields with
    | nil =>
      rw [List.intercalate_singleton] at h
      exact .inr ⟨f, List.mem_cons_self, h⟩
    | cons g fields =>
      rw [List.intercalate_cons_cons, List.mem_append, List.mem_append, List.mem_singleton] at h
      rcases h with (h | h) | h
      · exact .inr ⟨f, List.mem_cons_self, h⟩
      · exact .inl h
      · obtain htab | ⟨f', hf', hc⟩ := ih h
        · exact .inl htab
        · exact .inr ⟨f', List.mem_cons_of_mem f hf', hc⟩

theorem feed_not_mem_intercalate {fields : List (List Char)} (h : ∀ f ∈ fields, FitsField f) :
    '\n' ∉ ['\t'].intercalate fields := by
  intro hmem
  obtain htab | ⟨f, hf, hc⟩ := mem_intercalate hmem
  · exact absurd htab (by decide)
  · exact (h f hf).2 hc

/-- **Malformed fields are read as nothing.** -/
theorem ofRow?_of_malformed {fields : List (List Char)} (hne : fields ≠ [])
    (hfields : ∀ f ∈ fields, FitsField f) (h : Malformed fields) :
    ofRow? (['\t'].intercalate fields) = none := by
  rw [ofRow?, pieces_intercalate hne hfields]
  match fields, hne with
  | [pid], _ => rfl
  | pid :: name :: rest, _ =>
    cases hpid : Text.readInt32? (trim pid) with
    | none => simp [ofFields?, hpid]
    | some i =>
      -- the number is one, so it is the name that is missing
      have hname : Blank name := by
        rcases h with h | h
        · exact absurd (Text.readInt32?_eq_some_iff.mp hpid) (h pid rfl i)
        · exact h name rfl
      simp [ofFields?, hpid, hname.trim_eq]

/-- The number of an application is read back. -/
theorem readInt32?_trim_toString (pid : Int32) :
    Text.readInt32? (trim (toString pid.toInt).toList) = some pid := by
  have hsolid : Solid (toString pid.toInt).toList := by
    refine Solid.of_forall ?_ fun c hc => ?_
    · obtain ⟨ds, hne, -, ⟨hds | hds, -⟩ | ⟨hds, -⟩⟩ := Text.intNumeral_toString pid.toInt
      · exact hds ▸ hne
      · exact hds ▸ List.cons_ne_nil _ _
      · exact hds ▸ List.cons_ne_nil _ _
    · rcases Text.of_mem_toString_int hc with hdigit | rfl
      · exact Text.isBlank_of_isDigit hdigit
      · decide
  rw [hsolid.trim_eq, Text.readInt32?_eq_some_iff]
  exact Text.intNumeral_toString pid.toInt

theorem fitsField_row {a : Application} {unknown shown : List Char} (ha : a.Listable)
    (hunknown : unknown = [] ∨ unknown = missingValue) (hshown : FitsField shown) :
    ∀ f ∈ a.row unknown shown, FitsField f := by
  have hpid : FitsField (toString a.pid.toInt).toList := by
    constructor <;> intro hmem <;>
      exact absurd (Text.of_mem_toString_int hmem) (by decide)
  have hbundle : FitsField ((a.bundleId.map String.toList).getD unknown) := by
    cases hid : a.bundleId with
    | none =>
      rcases hunknown with rfl | rfl
      · exact ⟨List.not_mem_nil, List.not_mem_nil⟩
      · exact ⟨by decide, by decide⟩
    | some id => exact (ha.bundle id hid).2.1
  have hvisible : FitsField (if a.hidden then "false".toList else shown) := by
    split
    · exact ⟨by decide, by decide⟩
    · exact hshown
  simp only [row, List.forall_mem_cons]
  exact ⟨hpid, ha.name.2, hbundle, hvisible, List.forall_mem_nil _⟩

/-- The bundle identifier is read back, and what stands for an unknown one is read as such. -/
theorem bundleOf?_getD {a : Application} {unknown : List Char} (ha : a.Listable)
    (hunknown : unknown = [] ∨ unknown = missingValue) :
    bundleOf? ((a.bundleId.map String.toList).getD unknown) = a.bundleId := by
  cases hid : a.bundleId with
  | none => rcases hunknown with rfl | rfl <;> decide
  | some id =>
    obtain ⟨hsolid, -, hne⟩ := ha.bundle id hid
    simp [bundleOf?, hsolid.trim_eq, hsolid.ne_nil, hne]

theorem isHiddenField_ite {hidden : Bool} {shown : List Char}
    (hvisible : trim shown ≠ "false".toList) :
    isHiddenField (if hidden then "false".toList else shown) = hidden := by
  cases hidden with
  | true => rfl
  | false => exact beq_false_of_ne hvisible

/-- **The fields of an application are read back.** -/
theorem ofRow?_of_row {a : Application} {unknown shown : List Char} (ha : a.Listable)
    (hunknown : unknown = [] ∨ unknown = missingValue) (hshown : FitsField shown)
    (hvisible : trim shown ≠ "false".toList) :
    ofRow? (['\t'].intercalate (a.row unknown shown)) = some a := by
  have hname : trim a.name.toList = a.name.toList := ha.name.1.trim_eq
  have hnonempty : a.name.toList.isEmpty = false :=
    List.isEmpty_eq_false_iff.mpr ha.name.1.ne_nil
  have hpieces : pieces (· == '\t') (['\t'].intercalate (a.row unknown shown)) =
      a.row unknown shown :=
    pieces_intercalate (List.cons_ne_nil _ _) (fitsField_row ha hunknown hshown)
  rw [ofRow?, hpieces, row]
  simp only [ofFields?, readInt32?_trim_toString, hname, hnonempty, List.getElem?_cons_zero,
    List.getElem?_cons_succ, Option.bind_eq_bind, Option.bind_some, Option.any_some,
    bundleOf?_getD ha hunknown, isHiddenField_ite hvisible, String.ofList_toList]
  rfl

/-- **A line is read as what it tells.** -/
theorem ofRow?_of_tells {line : List Char} {a : Option Application} (h : Tells line a) :
    ofRow? line = a := by
  cases h with
  | row ha hunknown hshown hvisible => exact ofRow?_of_row ha hunknown hshown hvisible
  | malformed hne hfields h => exact ofRow?_of_malformed hne hfields h

theorem Tells.feed_not_mem {line : List Char} {a : Option Application} (h : Tells line a) :
    '\n' ∉ line := by
  cases h with
  | row ha hunknown hshown _ => exact feed_not_mem_intercalate (fitsField_row ha hunknown hshown)
  | malformed _ hfields _ => exact feed_not_mem_intercalate hfields

/-! ## The end of a line -/

/-- **Fields are trimmed before they are read.** -/
theorem ofFields?_map_trim (fields : List (List Char)) :
    ofFields? (fields.map trim) = ofFields? fields := by
  have hbundle (o : Option (List Char)) : (o.map trim).bind bundleOf? = o.bind bundleOf? := by
    cases o with
    | none => rfl
    | some f => simp only [Option.map_some, Option.bind_some, bundleOf?, Text.trim_trim]
  have hhidden (o : Option (List Char)) : (o.map trim).any isHiddenField = o.any isHiddenField := by
    cases o with
    | none => rfl
    | some f => simp only [Option.map_some, Option.any_some, isHiddenField, Text.trim_trim]
  match fields with
  | [] => rfl
  | [_] => rfl
  | pid :: name :: rest =>
    simp only [List.map_cons, ofFields?, Text.trim_trim, List.getElem?_map, hbundle, hhidden]

/-- **How a line ends does not matter.** -/
theorem ofRow?_dropReturn (line : List Char) : ofRow? (Text.dropReturn line) = ofRow? line := by
  unfold Text.dropReturn
  split
  · next r hr =>
    have hline : line = r.reverse ++ ['\r'] := by
      rw [← List.reverse_reverse line, hr, List.reverse_cons]
    -- the carriage return is a blank at the end of the last field
    obtain ⟨front, last, hpieces⟩ := Text.exists_pieces_append (· == '\t') r.reverse
    have hwith := hpieces ['\r'] (by decide)
    have hwithout := hpieces [] (List.forall_mem_nil _)
    rw [List.append_nil, List.append_nil] at hwithout
    rw [hline, ofRow?, ofRow?, ← ofFields?_map_trim,
      ← ofFields?_map_trim (pieces _ (r.reverse ++ ['\r'])), hwith, hwithout]
    simp only [List.map_append, List.map_cons, List.map_nil, Text.trim_append_blank
      (show Text.isBlank '\r' = true by decide)]
  · rfl

/-! ## All lines -/

theorem filterMap_cons_ofRow? {line : List Char} {a : Option Application} (h : ofRow? line = a)
    (lines : List (List Char)) (told : List (Option Application))
    (hrest : lines.filterMap ofRow? = told.filterMap id) :
    (line :: lines).filterMap ofRow? = (a :: told).filterMap id := by
  subst h
  cases hrow : ofRow? line with
  | none => simp [hrow, hrest]
  | some a => simp [hrow, hrest]

/-- **What is read from the lines of a listing.** -/
theorem filterMap_lines_of_lists {text : List Char} {told : List (Option Application)}
    (h : Lists text told) : (Text.lines text).filterMap ofRow? = told.filterMap id := by
  induction h with
  | nil => rfl
  | @last line a h =>
    rw [Text.lines_of_not_mem h.feed_not_mem]
    split
    · next hempty =>
      -- there is no line at all, and an empty one would tell of nothing
      rw [List.isEmpty_iff] at hempty
      have hnone : a = none := (ofRow?_of_tells h).symm.trans (hempty ▸ rfl)
      rw [hnone]
      rfl
    · exact filterMap_cons_ofRow? (ofRow?_of_tells h) [] [] rfl
  | @line line ending text a told h hending _ ih =>
    have hfeed := h.feed_not_mem
    rcases hending with rfl | rfl
    · have hrow : ofRow? (Text.dropReturn line) = a := by
        rw [ofRow?_dropReturn]
        exact ofRow?_of_tells h
      rw [List.append_assoc, List.singleton_append, Text.lines_append_feed hfeed]
      exact filterMap_cons_ofRow? hrow _ _ ih
    · have hreturn : '\n' ∉ line ++ ['\r'] := by
        simp [hfeed]
      have hrow : ofRow? (Text.dropReturn (line ++ ['\r'])) = a := by
        rw [Text.dropReturn, List.reverse_append, List.reverse_singleton]
        exact (congrArg ofRow? (List.reverse_reverse line)).trans (ofRow?_of_tells h)
      have htext : line ++ ['\r', '\n'] ++ text = (line ++ ['\r']) ++ '\n' :: text := by simp
      rw [htext, Text.lines_append_feed hreturn]
      exact filterMap_cons_ofRow? hrow _ _ ih

/-- **A listing is read as what its lines tell**, in order: the applications of the lines that tell
of one, whatever lines stand between them. -/
theorem ofListing_of_lists {text : String} {told : List (Option Application)}
    (h : Lists text.toList told) : ofListing text = told.filterMap id :=
  filterMap_lines_of_lists h

/-- A number out of range between two applications, and a last line without a line feed. -/
theorem ofListing_of_lists_mixed :
    let finder : Application := ⟨412, "Finder", some "com.apple.finder", false⟩
    let tool : Application := ⟨-5, "Some Tool", none, true⟩
    let text := "412\tFinder\tcom.apple.finder\ttrue\r\n2147483648\tToo Large\n" ++
      "-5\tSome Tool\tmissing value\tfalse"
    Lists text.toList [some finder, none, some tool] ∧ ofListing text = [finder, tool] := by
  intro finder tool text
  have hfinder : finder.Listable := by
    refine ⟨⟨Solid.of_trim_eq (by decide) (by decide), by decide, by decide⟩, ?_⟩
    rintro id ⟨⟩
    exact ⟨Solid.of_trim_eq (by decide) (by decide), ⟨by decide, by decide⟩, by decide⟩
  have htool : tool.Listable :=
    ⟨⟨Solid.of_trim_eq (by decide) (by decide), by decide, by decide⟩, nofun⟩
  have hmalformed : Malformed ["2147483648".toList, "Too Large".toList] := by
    refine .inl ?_
    rintro pid ⟨⟩ i
    have hnone : Text.readInt32? (trim "2147483648".toList) = none := by decide
    rw [← Text.readInt32?_eq_some_iff, hnone]
    exact nofun
  have hfields : ∀ f ∈ ["2147483648".toList, "Too Large".toList], FitsField f := by
    intro f hf
    rcases List.mem_pair.mp hf with rfl | rfl <;> exact ⟨by decide, by decide⟩
  have htrue : FitsField "true".toList := ⟨by decide, by decide⟩
  have hfirst : Tells _ (some finder) := .row hfinder (.inl rfl) htrue (by decide)
  have hsecond : Tells _ none := .malformed (List.cons_ne_nil _ _) hfields hmalformed
  have hthird : Tells _ (some tool) := .row htool (.inr rfl) htrue (by decide)
  have hlists := Lists.line hfirst (.inr rfl) (.line hsecond (.inl rfl) (.last hthird))
  have htext : text.toList = ['\t'].intercalate (finder.row [] "true".toList) ++ ['\r', '\n'] ++
      (['\t'].intercalate ["2147483648".toList, "Too Large".toList] ++ ['\n'] ++
        ['\t'].intercalate (tool.row missingValue "true".toList)) := by
    decide +kernel
  rw [← htext] at hlists
  exact ⟨hlists, ofListing_of_lists hlists⟩

end Application

end KeyPlan
