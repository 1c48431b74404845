import Guidebook.Json.Printer
import Guidebook.Json.Reader
import Guidebook.Proofs.Basic
import Guidebook.Proofs.Dictionary
import Guidebook.Proofs.Text.Numeral
import Mathlib.Data.List.TakeWhile

/-!
# Documents that have been written

The text of a value is read as this value, but for the order of the members of its objects.  The
text of a number does not tell where it ends, so a value is read from its text in front of anything
with which no number goes on; commas, brackets and braces are of this kind.
-/

namespace Guidebook.Json

open Guidebook.Text

/-! ## Strings -/

namespace Reader

/-- The escape of a control character denotes it. -/
theorem unit?_of_control
    {code : Nat} (control : code < 0x20) :
    unit? '0' '0' (lowerHexDigit (code / 16)) (lowerHexDigit (code % 16)) =
      some code := by
  have each :
      ∀ code < 0x20,
        unit? '0' '0' (lowerHexDigit (code / 16)) (lowerHexDigit (code % 16)) =
          some code := by
    decide
  exact each code control

/-- A string is read from its characters as they are written. -/
theorem string?_character (c : Char) (rest : List Char) :
    string? (Printer.character c ++ rest) =
      (string? rest).map fun read => (c :: read.1, read.2) := by
  unfold Printer.character
  split
  case h_8 quote backslash _ _ _ _ _ =>
    split
    · rename_i control
      have low : c.toNat < 0xD800 ∨ 0xDFFF < c.toNat := by omega
      simp only [List.cons_append, List.nil_append, string?,
        unit?_of_control control, if_pos low, Char.ofNat_toNat]
    · rename_i visible
      rw [List.singleton_append, string?.eq_def]
      split
      · contradiction
      · exact absurd (List.cons.inj ‹_›).1 quote
      · exact absurd (List.cons.inj ‹_›).1 backslash
      · exact absurd (List.cons.inj ‹_›).1 backslash
      · rename_i same
        cases same
        exact if_neg (not_or.mpr ⟨backslash, visible⟩)
  all_goals rfl

theorem string?_quoted (text rest : List Char) :
    string? (text.flatMap Printer.character ++ '"' :: rest) =
      some (text, rest) := by
  induction text with
  | nil => rfl
  | cons c more ih =>
      rw [List.flatMap_cons, List.append_assoc, string?_character, ih]
      rfl

/-! ## Blanks -/

theorem skip_cons
    {c : Char} (solid : isSpace c = false) (rest : List Char) :
    skip (c :: rest) = c :: rest :=
  List.dropWhile_cons_of_neg (by simp [solid])

theorem isSpace_of_isDigit
    {c : Char} (digit : isDigit c) :
    isSpace c = false := by
  cases space : isSpace c with
  | false => rfl
  | true =>
      simp only [isSpace, Bool.or_eq_true, beq_iff_eq] at space
      rcases space with ((rfl | rfl) | rfl) | rfl
      all_goals exact absurd digit (by decide)

/-! ## Numbers -/

/-- A text that does not go on with a number that stands in front of it. -/
def EndsNumber (rest : List Char) : Prop :=
  ∀ c ∈ rest.head?, isDigit c = false ∧ c ≠ '.' ∧ c ≠ 'e' ∧ c ≠ 'E'

theorem EndsNumber.nil : EndsNumber [] :=
  fun _ member => absurd member (Option.not_mem_none _)

theorem EndsNumber.cons
    {c : Char}
    (ends : isDigit c = false ∧ c ≠ '.' ∧ c ≠ 'e' ∧ c ≠ 'E')
    (rest : List Char) :
    EndsNumber (c :: rest) := by
  intro first member
  cases Option.mem_some_iff.mp member
  exact ends

namespace EndsNumber

variable {rest : List Char}

theorem takeWhile_isDigit (ends : EndsNumber rest) :
    rest.takeWhile isDigit = [] := by
  cases rest with
  | nil => rfl
  | cons c more =>
      have stops := (ends c rfl).1
      exact List.takeWhile_cons_of_neg (by simp [stops])

theorem dropWhile_isDigit (ends : EndsNumber rest) :
    rest.dropWhile isDigit = rest := by
  cases rest with
  | nil => rfl
  | cons c more =>
      have stops := (ends c rfl).1
      exact List.dropWhile_cons_of_neg (by simp [stops])

theorem fraction? (ends : EndsNumber rest) :
    fraction? rest = some ([], rest) := by
  unfold Reader.fraction?
  split
  · exact absurd rfl (ends '.' rfl).2.1
  · rfl

theorem exponent? (ends : EndsNumber rest) :
    exponent? rest = some (none, rest) := by
  cases rest with
  | nil => rfl
  | cons c more =>
      obtain ⟨_, _, small, capital⟩ := ends c rfl
      exact if_neg (not_or.mpr ⟨small, capital⟩)

end EndsNumber

/-- A number without fraction and exponent is read from its digits if it fits sixty-four bits. -/
theorem unsigned?_toDigits
    {value : Nat} (small : value < UInt64.size)
    {rest : List Char} (ends : EndsNumber rest) :
    unsigned? false (Nat.toDigits 10 value ++ rest) =
      some (.natural value, rest) := by
  have digits : ∀ c ∈ Nat.toDigits 10 value, isDigit c :=
    isDigit_of_mem_toDigits
  have taken :
      (Nat.toDigits 10 value ++ rest).takeWhile isDigit =
        Nat.toDigits 10 value := by
    rw [List.takeWhile_append_of_pos digits, ends.takeWhile_isDigit,
      List.append_nil]
  have left : (Nat.toDigits 10 value ++ rest).dropWhile isDigit = rest := by
    rw [List.dropWhile_append_of_pos digits, ends.dropWhile_isDigit]
  have nonempty : (Nat.toDigits 10 value).isEmpty = false :=
    List.isEmpty_eq_false_iff.mpr Nat.toDigits_ne_nil
  have leading :
      ((Nat.toDigits 10 value).length == 1 ||
        (Nat.toDigits 10 value).head? != some '0') = true := by
    rcases Nat.eq_zero_or_pos value with rfl | positive
    · rfl
    · simp [head?_toDigits_ne_zero positive]
  unfold unsigned?
  simp only [taken, left, nonempty, leading]
  refine option_bind_eq_some.mpr ⟨(), rfl, ?_⟩
  refine option_bind_eq_some.mpr ⟨_, ends.fraction?, ?_⟩
  refine option_bind_eq_some.mpr ⟨_, ends.exponent?, ?_⟩
  simp only [digitsValue_toDigits, small]
  rfl

end Reader

/-! ## What is read of a value -/

namespace Value

mutual

/-- A value as it is read: members in ascending order, and of those with one key the last. -/
def normal : Value → Value
  | .array items => .array (normalItems items)
  | .object members => .object (normalMembers [] members)
  | value => value

def normalItems : List Value → List Value
  | [] => []
  | item :: rest => normal item :: normalItems rest

/-- Members added to those read before. -/
def normalMembers (soFar : List (String × Value)) :
    List (String × Value) → List (String × Value)
  | [] => soFar
  | (key, value) :: rest =>
    normalMembers (Dictionary.insertEntry key (normal value) soFar) rest

end

/--
A value that nests at most so many brackets, and all of whose numbers are natural numbers of
sixty-four bits.
-/
inductive Fits : Nat → Value → Prop where
  | null {depth : Nat} : Fits depth .null
  | boolean {depth : Nat} (value : Bool) : Fits depth (.boolean value)
  | natural {depth value : Nat} (small : value < UInt64.size) :
    Fits depth (.natural value)
  | string {depth : Nat} (text : String) : Fits depth (.string text)
  | array {depth : Nat} {items : List Value}
    (each : ∀ item ∈ items, Fits depth item) :
    Fits (depth + 1) (.array items)
  | object {depth : Nat} {members : List (String × Value)}
    (each : ∀ entry ∈ members, Fits depth entry.2) :
    Fits (depth + 1) (.object members)

end Value

/-! ## Texts of values -/

namespace Printer

theorem toList_quoted (text : String) :
    (quoted text).toList =
      '"' :: (text.toList.flatMap character ++ ['"']) := by
  simp [quoted]

theorem toList_natural (value : Nat) :
    (compact (.natural value)).toList = Nat.toDigits 10 value :=
  toList_toString value

theorem toList_array (items : List Value) :
    (compact (.array items)).toList =
      '[' :: ((compactItems items).toList ++ [']']) := by
  simp [compact]

theorem toList_object (members : List (String × Value)) :
    (compact (.object members)).toList =
      '\x7b' :: ((compactMembers members).toList ++ ['\x7d']) := by
  simp [compact]

theorem toList_items_cons (item next : Value) (more : List Value) :
    (compactItems (item :: next :: more)).toList =
      (compact item).toList ++ ',' :: (compactItems (next :: more)).toList := by
  simp [compactItems]

theorem toList_member (key : String) (value : Value) :
    (compactMembers [(key, value)]).toList =
      '"' :: (key.toList.flatMap character ++
        '"' :: ':' :: (compact value).toList) := by
  simp [compactMembers, toList_quoted]

theorem toList_members_cons
    (key : String) (value : Value) (next : String × Value)
    (more : List (String × Value)) :
    (compactMembers ((key, value) :: next :: more)).toList =
      '"' :: (key.toList.flatMap character ++
        '"' :: ':' :: ((compact value).toList ++
          ',' :: (compactMembers (next :: more)).toList)) := by
  simp [compactMembers, toList_quoted]

/-- The character at the start of a value's text is that of a token, and closes no array. -/
theorem exists_compact
    {depth : Nat} {value : Value} (fits : value.Fits depth) :
    ∃ c rest,
      (compact value).toList = c :: rest ∧
        Reader.isSpace c = false ∧ c ≠ ']' := by
  cases fits with
  | null => exact ⟨'n', _, rfl, by decide, by decide⟩
  | boolean value =>
      cases value with
      | true => exact ⟨'t', _, rfl, by decide, by decide⟩
      | false => exact ⟨'f', _, rfl, by decide, by decide⟩
  | @natural _ value small =>
      obtain ⟨c, rest, split, digit⟩ := exists_toDigits value
      refine ⟨c, rest, (toList_natural value).trans split, ?_, ?_⟩
      · exact Reader.isSpace_of_isDigit digit
      · rintro rfl
        exact absurd digit (by decide)
  | string text => exact ⟨'"', _, toList_quoted text, by decide, by decide⟩
  | @array _ items each =>
      exact ⟨'[', _, toList_array items, by decide, by decide⟩
  | @object _ members each =>
      exact ⟨'\x7b', _, toList_object members, by decide, by decide⟩

theorem exists_compactItems
    {depth : Nat} {items : List Value}
    (each : ∀ item ∈ items, item.Fits depth)
    (nonempty : items ≠ []) :
    ∃ c rest,
      (compactItems items).toList = c :: rest ∧
        Reader.isSpace c = false ∧ c ≠ ']' := by
  cases items with
  | nil => exact absurd rfl nonempty
  | cons item more =>
      obtain ⟨c, rest, split, token⟩ :=
        exists_compact (each item List.mem_cons_self)
      cases more with
      | nil => exact ⟨c, rest, split, token⟩
      | cons next others =>
          rw [toList_items_cons, split, List.cons_append]
          exact ⟨c, _, rfl, token⟩

/-- The text of members starts with the quote of a key. -/
theorem exists_compactMembers
    (entry : String × Value) (more : List (String × Value)) :
    ∃ rest, (compactMembers (entry :: more)).toList = '"' :: rest := by
  obtain ⟨key, value⟩ := entry
  cases more with
  | nil => exact ⟨_, toList_member key value⟩
  | cons next others => exact ⟨_, toList_members_cons key value next others⟩

end Printer

namespace Reader

open Printer

variable {depth : Nat} {value : Value} {items : List Value}
  {members : List (String × Value)}

/-- With enough fuel, a value is read from its text whatever ends it. -/
def ReadsBack (depth : Nat) (value : Value) : Prop :=
  ∀ fuel rest,
    2 * (compact value).toList.length ≤ fuel →
      EndsNumber rest →
        value? fuel depth ((compact value).toList ++ rest) =
          some (value.normal, rest)

/-! ## Reading items and members -/

theorem items?_compactItems
    (nonempty : items ≠ [])
    (each : ∀ item ∈ items, ReadsBack depth item)
    {fuel : Nat}
    (enough : 2 * (compactItems items).toList.length + 1 ≤ fuel)
    (rest : List Char) :
    items? fuel depth ((compactItems items).toList ++ ']' :: rest) =
      some (Value.normalItems items, rest) := by
  have bracket : EndsNumber (']' :: rest) := .cons (by decide) rest
  induction items generalizing fuel with
  | nil => exact absurd rfl nonempty
  | cons item more ih =>
      obtain ⟨fuel, rfl⟩ := Nat.exists_eq_add_of_le' (Nat.le_of_add_left_le enough)
      obtain ⟨first, later⟩ := List.forall_mem_cons.mp each
      rw [items?]
      cases more with
      | nil =>
          have written : compactItems [item] = compact item := rfl
          rw [written] at enough ⊢
          rw [first fuel _ (by omega) bracket]
          rfl
      | cons next others =>
          rw [toList_items_cons] at enough ⊢
          rw [List.length_append, List.length_cons] at enough
          rw [List.append_assoc, List.cons_append,
            first fuel _ (by omega) (.cons (by decide) _)]
          have comma : isSpace ',' = false := by decide
          simp only [skip_cons comma]
          rw [ih (List.cons_ne_nil next others) later (by omega)]
          rfl

theorem members?_compactMembers
    (nonempty : members ≠ [])
    (each : ∀ entry ∈ members, ReadsBack depth entry.2)
    {fuel : Nat}
    (enough : 2 * (compactMembers members).toList.length + 1 ≤ fuel)
    (soFar : List (String × Value)) (rest : List Char) :
    members? fuel depth soFar
        ((compactMembers members).toList ++ '\x7d' :: rest) =
      some (Value.normalMembers soFar members, rest) := by
  have brace : EndsNumber ('\x7d' :: rest) := .cons (by decide) rest
  have quote : isSpace '"' = false := by decide
  have colon : isSpace ':' = false := by decide
  induction members generalizing fuel soFar with
  | nil => exact absurd rfl nonempty
  | cons entry more ih =>
      obtain ⟨key, value⟩ := entry
      obtain ⟨fuel, rfl⟩ := Nat.exists_eq_add_of_le' (Nat.le_of_add_left_le enough)
      obtain ⟨(first : ReadsBack depth value), later⟩ :=
        List.forall_mem_cons.mp each
      rw [members?]
      cases more with
      | nil =>
          rw [toList_member] at enough ⊢
          simp only [List.length_append, List.length_cons] at enough
          simp only [List.cons_append, List.append_assoc, skip_cons quote,
            string?_quoted, skip_cons colon]
          rw [first fuel _ (by omega) brace, String.ofList_toList]
          rfl
      | cons next others =>
          have comma : isSpace ',' = false := by decide
          rw [toList_members_cons] at enough ⊢
          simp only [List.length_append, List.length_cons] at enough
          simp only [List.cons_append, List.append_assoc, skip_cons quote,
            string?_quoted, skip_cons colon]
          rw [first fuel _ (by omega) (.cons (by decide) _),
            String.ofList_toList]
          simp only [skip_cons comma]
          rw [ih (List.cons_ne_nil next others) later (by omega)]
          rfl

/-! ## Reading values -/

/-- A text that starts with a digit is read as a number. -/
theorem value?_digit
    {c : Char} (digit : isDigit c) (fuel : Nat) (rest : List Char) :
    value? (fuel + 1) depth (c :: rest) = unsigned? false (c :: rest) := by
  have differs : ∀ other, isDigit other = false → c ≠ other := by
    rintro other stops rfl
    exact absurd digit (by simp [stops])
  rw [value?, skip_cons (isSpace_of_isDigit digit)]
  split
  · exact absurd (List.cons.inj ‹_›).1 (differs '"' (by decide))
  · exact absurd (List.cons.inj ‹_›).1 (differs '-' (by decide))
  · exact absurd (List.cons.inj ‹_›).1 (differs '[' (by decide))
  · exact absurd (List.cons.inj ‹_›).1 (differs '\x7b' (by decide))
  · rename_i same
    cases same
    exact if_pos digit
  · contradiction

theorem value?_items
    {c : Char} (solid : isSpace c = false) (other : c ≠ ']')
    (fuel : Nat) (rest : List Char) :
    value? (fuel + 1) (depth + 1) ('[' :: c :: rest) =
      (items? fuel depth (c :: rest)).map
        fun read => (.array read.1, read.2) := by
  have bracket : isSpace '[' = false := by decide
  rw [value?, skip_cons bracket]
  simp only [skip_cons solid]
  split
  · exact absurd (List.cons.inj ‹_›).1 other
  · rfl

theorem value?_members (fuel : Nat) (rest : List Char) :
    value? (fuel + 1) (depth + 1) ('\x7b' :: '"' :: rest) =
      (members? fuel depth [] ('"' :: rest)).map
        fun read => (.object read.1, read.2) := by
  have brace : isSpace '\x7b' = false := by decide
  have quote : isSpace '"' = false := by decide
  rw [value?, skip_cons brace]
  simp only [skip_cons quote]
  rfl

/-- The text of a value is not empty, so there is some fuel. -/
theorem ReadsBack.of_succ
    (fits : value.Fits depth)
    (reads :
      ∀ fuel rest,
        2 * (compact value).toList.length ≤ fuel + 1 →
          EndsNumber rest →
            value? (fuel + 1) depth ((compact value).toList ++ rest) =
              some (value.normal, rest)) :
    ReadsBack depth value := by
  intro fuel rest enough ends
  obtain ⟨c, more, split, _⟩ := exists_compact fits
  have positive : 0 < (compact value).toList.length := by
    rw [split]
    exact Nat.succ_pos _
  cases fuel with
  | zero => omega
  | succ fuel => exact reads fuel rest enough ends

/-- A value that fits is read back from its text. -/
theorem readsBack_of_fits (fits : value.Fits depth) :
    ReadsBack depth value := by
  have quote : isSpace '"' = false := by decide
  have bracket : isSpace '[' = false := by decide
  have brace : isSpace '\x7b' = false := by decide
  induction fits with
  | null => exact .of_succ .null fun fuel rest _ _ => rfl
  | boolean value =>
      refine .of_succ (.boolean value) fun fuel rest _ _ => ?_
      cases value <;> rfl
  | @natural _ value small =>
      refine .of_succ (.natural small) fun fuel rest _ ends => ?_
      have read := unsigned?_toDigits small ends
      obtain ⟨c, more, split, digit⟩ := exists_toDigits value
      rw [toList_natural]
      rw [split] at read ⊢
      rw [List.cons_append, value?_digit digit]
      exact read
  | string text =>
      refine .of_succ (.string text) fun fuel rest _ _ => ?_
      have written : (compact (.string text)).toList = _ := toList_quoted text
      rw [written, List.cons_append, List.append_assoc, value?,
        skip_cons quote]
      simp only [List.singleton_append, string?_quoted]
      rw [Option.map_some, String.ofList_toList]
      rfl
  | @array depth items each ih =>
      refine .of_succ (.array each) fun fuel rest enough ends => ?_
      rw [toList_array] at enough ⊢
      simp only [List.length_append, List.length_cons] at enough
      rw [List.cons_append, List.append_assoc, List.singleton_append]
      cases items with
      | nil => rfl
      | cons item more =>
          have read :=
            items?_compactItems (List.cons_ne_nil item more) ih
              (by omega : _ ≤ fuel) rest
          obtain ⟨c, others, split, solid, other⟩ :=
            exists_compactItems each (List.cons_ne_nil item more)
          rw [split] at read ⊢
          rw [List.cons_append] at read ⊢
          rw [value?_items solid other, read]
          rfl
  | @object depth members each ih =>
      refine .of_succ (.object each) fun fuel rest enough ends => ?_
      rw [toList_object] at enough ⊢
      simp only [List.length_append, List.length_cons] at enough
      rw [List.cons_append, List.append_assoc, List.singleton_append]
      cases members with
      | nil => rfl
      | cons entry more =>
          have read :=
            members?_compactMembers (List.cons_ne_nil entry more) ih
              (by omega : _ ≤ fuel) [] rest
          obtain ⟨others, split⟩ := exists_compactMembers entry more
          rw [split] at read ⊢
          rw [List.cons_append] at read ⊢
          rw [value?_members, read]
          rfl

end Reader

/-- A document that fits is read as the normal form of the value that it was written from. -/
theorem parse?_compact
    {value : Value} (fits : value.Fits deepest) :
    parse? value.compact = some value.normal := by
  have read :
      Reader.value? (2 * value.compact.toList.length + 1) deepest
          (value.compact.toList ++ []) = some (value.normal, []) :=
    Reader.readsBack_of_fits fits _ [] (Nat.le_succ _) .nil
  rw [List.append_nil] at read
  unfold parse? parseWithin?
  simp only [read]
  rfl

/-! ## Members of what is read -/

namespace Value

theorem normalItems_eq_map (items : List Value) :
    normalItems items = items.map normal := by
  induction items with
  | nil => rfl
  | cons item rest ih => rw [normalItems, ih, List.map_cons]

/-- Under each of several distinct keys its value is read. -/
theorem lookup_normalMembers
    {members : List (String × Value)}
    (distinct : (members.map Prod.fst).Nodup)
    (soFar : List (String × Value)) (key : String) :
    (normalMembers soFar members).lookup key =
      ((members.lookup key).map normal).or (soFar.lookup key) := by
  induction members generalizing soFar with
  | nil => rfl
  | cons entry rest ih =>
      obtain ⟨name, value⟩ := entry
      obtain ⟨absent, later⟩ := List.nodup_cons.mp distinct
      rw [normalMembers, ih later, Dictionary.lookup_insertEntry,
        Dictionary.lookup_cons_eq_ite]
      by_cases same : key = name
      · subst same
        have none : rest.lookup key = none := by
          rw [List.lookup_eq_none_iff]
          intro other member
          rw [bne_iff_ne]
          exact fun same =>
            absent (List.mem_map.mpr ⟨other, member, same.symm⟩)
        simp [none]
      · simp [same]

theorem ascending_normalMembers
    {soFar : List (String × Value)}
    (ascending : Dictionary.Ascending soFar)
    (members : List (String × Value)) :
    Dictionary.Ascending (normalMembers soFar members) := by
  induction members generalizing soFar with
  | nil => exact ascending
  | cons entry rest ih => exact ih ascending.insertEntry

/-- No keys are read but those that have been written. -/
theorem mem_normalMembers
    {soFar members : List (String × Value)} {entry : String × Value}
    (read : entry ∈ normalMembers soFar members) :
    entry.1 ∈ members.map Prod.fst ∨ entry ∈ soFar := by
  induction members generalizing soFar with
  | nil => exact Or.inr read
  | cons first rest ih =>
      rw [List.map_cons, List.mem_cons]
      rcases ih read with later | earlier
      · exact Or.inl (Or.inr later)
      · rcases Dictionary.mem_insertEntry earlier with here | before
        · exact Or.inl (Or.inl here)
        · exact Or.inr before

/-- Members in ascending order are read as they are if their values are. -/
theorem normalMembers_of_ascending
    {members : List (String × Value)}
    (ascending : Dictionary.Ascending members)
    (settled : ∀ entry ∈ members, entry.2.normal = entry.2) :
    normalMembers [] members = members := by
  have distinct : (members.map Prod.fst).Nodup := by
    unfold List.Nodup
    rw [List.pairwise_map]
    exact ascending.imp fun less => String.ne_of_lt less
  let read : Dictionary Value :=
    ⟨normalMembers [] members, ascending_normalMembers List.Pairwise.nil members⟩
  let written : Dictionary Value := ⟨members, ascending⟩
  have same : read = written := by
    ext1 key
    change (normalMembers [] members).lookup key = members.lookup key
    rw [lookup_normalMembers distinct, List.lookup_nil, Option.or_none]
    cases found : members.lookup key with
    | none => rfl
    | some value =>
        have member := ascending.mem_iff_lookup.mpr found
        exact congrArg some (settled (key, value) member)
  exact congrArg Dictionary.entries same

end Value

end Guidebook.Json
