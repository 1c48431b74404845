import Guidebook.Proofs.Text.LineFeeds
import Guidebook.Url.Address
import Mathlib.Data.Option.Basic

/-!
# Written addresses

An address of the web stays within a row when it is written, whatever text it was read from and
whatever fields are added to it: line breaks of the text are left out, and those that come from
elsewhere are encoded.
-/

namespace Guidebook.Url

open Guidebook.Text

/-! ## Encoded texts -/

theorem lineFeed_notMem_percentByte (byte : UInt8) :
    '\n' ∉ percentByte byte := by
  have digit : ∀ value, upperHexDigit value ≠ '\n' := by
    intro value same
    unfold upperHexDigit at same
    split at same
    · have code := LowerCase.eq_lineFeed_of_ofNat same
      omega
    · have code := LowerCase.eq_lineFeed_of_ofNat same
      omega
  simp [percentByte, Ne.symm (digit _)]

theorem lineFeed_notMem_bytes (bytes : List UInt8) :
    '\n' ∉ bytes.flatMap percentByte := by
  intro member
  obtain ⟨byte, _, inside⟩ := List.mem_flatMap.mp member
  exact lineFeed_notMem_percentByte byte inside

theorem lineFeed_notMem_encode
    (set : Char → Bool) {text : List Char}
    (free : '\n' ∉ text) :
    '\n' ∉ encode set text := by
  intro member
  obtain ⟨c, found, inside⟩ := List.mem_flatMap.mp member
  split at inside
  · exact lineFeed_notMem_bytes _ inside
  · exact free (List.mem_singleton.mp inside ▸ found)

/-- A field is encoded whatever it holds. -/
theorem lineFeed_notMem_encodeField (text : String) :
    '\n' ∉ encodeField text := by
  intro member
  obtain ⟨c, _, inside⟩ := List.mem_flatMap.mp member
  split at inside
  · exact absurd (List.mem_singleton.mp inside) (by decide)
  · split at inside
    · rename_i plain
      rw [← List.mem_singleton.mp inside] at plain
      revert plain
      decide
    · exact lineFeed_notMem_bytes _ inside

/-! ## Hosts -/

theorem lineFeed_notMem_toDigits
    {base : Nat} (proper : 1 < base) (known : base ≤ 16) (value : Nat) :
    '\n' ∉ Nat.toDigits base value := by
  have digit : ∀ value < 16, '\n' ∉ [Nat.digitChar value] := by decide
  induction value using Nat.strongRecOn with
  | ind value ih =>
      rw [Nat.toDigits_eq_if proper]
      split
      · exact digit value (by omega)
      · rw [List.mem_append, not_or]
        have last := Nat.mod_lt value (Nat.lt_of_succ_lt proper)
        exact ⟨ih _ (Nat.div_lt_self (by omega) proper),
          digit _ (Nat.lt_of_lt_of_le last known)⟩

theorem noLineFeed_toString (value : Nat) :
    NoLineFeed (toString value) :=
  NoLineFeed.ofList (lineFeed_notMem_toDigits (by decide) (by decide) value)

theorem noLineFeed_eightGroupsText (groups : List Nat) :
    NoLineFeed (eightGroupsText groups) := by
  have written : ∀ some : List Nat, NoLineFeed (groupsText some) := by
    intro some
    refine NoLineFeed.intercalate (.literal rfl) ?_
    intro part member
    obtain ⟨group, _, rfl⟩ := List.mem_map.mp member
    exact NoLineFeed.ofList
      (lineFeed_notMem_toDigits (by decide) (by decide) group)
  unfold eightGroupsText
  split
  · exact written groups
  · exact ((written _).append (.literal rfl)).append (written _)

theorem noLineFeed_bracketed
    {text : List Char} {host : String}
    (found : bracketed? text = some host) :
    NoLineFeed host := by
  unfold bracketed? at found
  split at found
  · obtain ⟨groups, _, rfl⟩ := Option.map_eq_some_iff.mp found
    exact ((NoLineFeed.literal rfl).append
      (noLineFeed_eightGroupsText groups)).append (.literal rfl)
  · cases found

theorem noLineFeed_fourBytesText (address : Nat) :
    NoLineFeed (fourBytesText address) := by
  have dot : NoLineFeed "." := NoLineFeed.literal rfl
  have byte := noLineFeed_toString
  exact ((((((byte _).append dot).append (byte _)).append dot).append
    (byte _)).append dot).append (byte _)

theorem lineFeed_notMem_nameInAscii
    {name written : List Char}
    (found : nameInAscii? name = some written) :
    '\n' ∉ written := by
  unfold nameInAscii? at found
  simp only at found
  split at found
  · cases found
  · rename_i allowed
    cases found
    exact fun member =>
      allowed (List.any_eq_true.mpr ⟨'\n', member, by decide⟩)

/-- The host of an address of the web stays within a row: no name may hold a line feed. -/
theorem noLineFeed_host
    {text : List Char} {host : String}
    (found : host? text = some host) :
    NoLineFeed host := by
  unfold host? at found
  split at found
  · exact noLineFeed_bracketed found
  · simp only [Option.bind_eq_bind, Option.bind_eq_some_iff,
      Option.guard_eq_some'] at found
    obtain ⟨decoded, _, name, inAscii, ⟨⟩, _, written⟩ := found
    split at written
    · obtain ⟨address, _, same⟩ := Option.bind_eq_some_iff.mp written
      cases same
      exact noLineFeed_fourBytesText address
    · cases written
      exact NoLineFeed.ofList (lineFeed_notMem_nameInAscii inAscii)

/-! ## Authorities and paths -/

theorem lineFeed_notMem_portText
    {kind : SchemeKind} {text port : List Char}
    (found : portText? kind text = some port) :
    '\n' ∉ port := by
  unfold portText? at found
  split at found
  · cases found
    exact List.not_mem_nil
  · split at found
    · cases found
      exact List.not_mem_nil
    · obtain ⟨number, _, written⟩ := Option.bind_eq_some_iff.mp found
      split at written
      · cases written
        exact List.not_mem_nil
      · cases written
        rw [List.mem_cons, not_or]
        exact ⟨by decide, (noLineFeed_toString number).notMem⟩

theorem lineFeed_notMem_credentialsText
    {text : List Char}
    (free : '\n' ∉ text) :
    '\n' ∉ credentialsText text := by
  have parts :
      '\n' ∉ ((cut ':' text).getD (text, [])).1 ∧
        '\n' ∉ ((cut ':' text).getD (text, [])).2 := by
    cases found : cut ':' text with
    | none => exact ⟨free, List.not_mem_nil⟩
    | some parts =>
        rw [(cut_eq_some found).1, List.mem_append, List.mem_cons] at free
        exact ⟨fun member => free (Or.inl member),
          fun member => free (Or.inr (Or.inr member))⟩
  have user := lineFeed_notMem_encode isEncodedInCredentials parts.1
  have password := lineFeed_notMem_encode isEncodedInCredentials parts.2
  unfold credentialsText
  simp only
  split <;> split <;> simp [user, password]

theorem lineFeed_notMem_authority
    {kind : SchemeKind} {text written : List Char}
    (special : kind.isSpecial)
    (free : '\n' ∉ text)
    (found : authority? kind text = some written) :
    '\n' ∉ written := by
  have credentials_free :
      '\n' ∉ ((cutLast '@' text).getD ([], text)).1 := by
    cases parts : cutLast '@' text with
    | none => exact List.not_mem_nil
    | some parts =>
        rw [cutLast_eq_some parts, List.mem_append] at free
        exact fun member => free (Or.inl member)
  unfold authority? at found
  simp only [Option.bind_eq_bind, Option.bind_eq_some_iff,
    Option.guard_eq_some', special, ↓reduceIte] at found
  obtain ⟨⟨⟩, _, host, host_found, ⟨⟩, _, port, port_found, same⟩ := found
  cases same
  have credentials := lineFeed_notMem_credentialsText credentials_free
  have port_free := lineFeed_notMem_portText port_found
  simp only [List.mem_append, not_or]
  exact ⟨⟨credentials, (noLineFeed_host host_found).notMem⟩, port_free⟩

/-- The segments of a path come from its text. -/
theorem lineFeed_notMem_carryDots
    {kind : SchemeKind} {before segments : List (List Char)}
    (before_free : ∀ segment ∈ before, '\n' ∉ segment)
    (free : ∀ segment ∈ segments, '\n' ∉ segment) :
    ∀ segment ∈ carryDots kind before segments, '\n' ∉ segment := by
  induction segments generalizing before with
  | nil => exact before_free
  | cons first rest ih =>
      obtain ⟨first_free, rest_free⟩ := List.forall_mem_cons.mp free
      have closing_free :
          ∀ segment ∈ if rest.isEmpty then [([] : List Char)] else [],
            '\n' ∉ segment := by
        split <;> simp
      have shorter_free : ∀ segment ∈ shorten kind before, '\n' ∉ segment := by
        unfold shorten
        split
        · exact before_free
        · exact fun segment member =>
            before_free segment ((List.dropLast_sublist before).mem member)
      have kept_free : '\n' ∉ keptSegment kind before first := by
        unfold keptSegment
        split
        · rw [List.mem_append, not_or]
          exact ⟨fun member => first_free (List.mem_of_mem_take member),
            by decide⟩
        · exact first_free
      rw [carryDots]
      split
      · exact ih (List.forall_mem_append.mpr ⟨shorter_free, closing_free⟩)
          rest_free
      · split
        · exact ih (List.forall_mem_append.mpr ⟨before_free, closing_free⟩)
            rest_free
        · exact ih (List.forall_mem_append.mpr
            ⟨before_free, List.forall_mem_singleton.mpr kept_free⟩) rest_free

theorem lineFeed_notMem_pathText
    {kind : SchemeKind} {text : List Char}
    (free : '\n' ∉ text) :
    '\n' ∉ pathText kind text := by
  have segments_free :
      ∀ segment ∈ (text.splitOnP kind.isSlash).map (encode isEncodedInPath),
        '\n' ∉ segment := by
    intro segment member
    obtain ⟨piece, found, rfl⟩ := List.mem_map.mp member
    exact lineFeed_notMem_encode _ fun inside =>
      free (mem_of_mem_splitOnP piece found _ inside)
  have carried_free :
      '\n' ∉ (carryDots kind []
        ((text.splitOnP kind.isSlash).map (encode isEncodedInPath))).flatMap
          ('/' :: ·) := by
    intro member
    obtain ⟨segment, found, inside⟩ := List.mem_flatMap.mp member
    have segment_free :=
      lineFeed_notMem_carryDots (List.forall_mem_nil _)
        segments_free segment found
    rcases List.mem_cons.mp inside with same | inside
    · exact absurd same (by decide)
    · exact segment_free inside
  unfold pathText
  simp only
  split
  · rw [List.mem_cons, not_or]
    exact ⟨by decide, fun member =>
      carried_free ((List.dropWhile_sublist _).mem member)⟩
  · exact carried_free

theorem lineFeed_notMem_pathBehindAuthority
    {kind : SchemeKind} {text : List Char}
    (free : '\n' ∉ text) :
    '\n' ∉ pathBehindAuthority kind text := by
  unfold pathBehindAuthority
  split
  · split <;> decide
  · rename_i c rest
    split
    · exact lineFeed_notMem_pathText fun member =>
        free (List.mem_cons_of_mem _ member)
    · exact lineFeed_notMem_pathText free

theorem queryAndFragment_free
    (special : Bool) {text : List Char}
    (free : '\n' ∉ text) :
    NoLineFeed ((queryAndFragment special text).1.getD "") ∧
      NoLineFeed ((queryAndFragment special text).2.getD "") := by
  have query_free :
      ∀ c query, '\n' ∉ c :: query →
        NoLineFeed (String.ofList (encode (isEncodedInQuery special) query)) :=
    fun _ _ front_free => NoLineFeed.ofList (lineFeed_notMem_encode _
      fun member => front_free (List.mem_cons_of_mem _ member))
  unfold queryAndFragment
  cases found : cut '#' text with
  | none =>
      cases text with
      | nil => exact ⟨NoLineFeed.empty, NoLineFeed.empty⟩
      | cons c query => exact ⟨query_free c query free, NoLineFeed.empty⟩
  | some parts =>
      obtain ⟨front, after⟩ := parts
      rw [(cut_eq_some found).1, List.mem_append, List.mem_cons, not_or,
        not_or] at free
      have fragment_free :
          NoLineFeed (String.ofList (encode isEncodedInFragment after)) :=
        NoLineFeed.ofList (lineFeed_notMem_encode _ free.2.2)
      cases front with
      | nil => exact ⟨NoLineFeed.empty, fragment_free⟩
      | cons c query => exact ⟨query_free c query free.1, fragment_free⟩

/-! ## Addresses -/

namespace Address

/-- An address none of whose parts holds a line feed. -/
structure StaysInRow (address : Address) : Prop where
  scheme : NoLineFeed address.scheme
  authority : NoLineFeed (address.authority.getD "")
  path : NoLineFeed address.path
  query : NoLineFeed (address.query.getD "")
  fragment : NoLineFeed (address.fragment.getD "")

/-- The scheme of an address is the one in front of its text. -/
theorem scheme_of_parse?
    {text : String} {address : Address}
    (read : parse? text = some address) :
    (scheme? (cleaned text.toList)).map Prod.fst = some address.scheme := by
  unfold parse? at read
  obtain ⟨⟨scheme, rest⟩, scheme_found, read⟩ := Option.bind_eq_some_iff.mp read
  obtain ⟨parts, _, same⟩ := Option.bind_eq_some_iff.mp read
  cases same
  rw [scheme_found]
  rfl

/-- An address of the web, whatever text it is read from, stays in a row. -/
theorem staysInRow_of_parse?
    {text : String} {address : Address}
    (read : parse? text = some address)
    (web : address.scheme = "http" ∨ address.scheme = "https") :
    address.StaysInRow := by
  unfold parse? at read
  simp only [Option.bind_eq_bind, Option.bind_eq_some_iff] at read
  obtain ⟨⟨scheme, rest⟩, scheme_found, ⟨authority, path⟩, hierarchy, same⟩ :=
    read
  cases same
  have rest_free : '\n' ∉ rest := by
    obtain ⟨⟨_, behind⟩, split, _, _, same⟩ := by
      simpa only [scheme?, Option.bind_eq_bind, Option.bind_eq_some_iff]
        using scheme_found
    cases same
    intro member
    have cleaned_member : '\n' ∈ cleaned text.toList := by
      rw [(cut_eq_some split).1]
      exact List.mem_append_right _ (List.mem_cons_of_mem _ member)
    exact absurd (List.mem_filter.mp cleaned_member).2 (by decide)
  have kind :
      ∃ port, SchemeKind.ofScheme scheme = .special port := by
    rcases web with http | https
    · exact ⟨80, by rw [show scheme = "http" from http]; rfl⟩
    · exact ⟨443, by rw [show scheme = "https" from https]; rfl⟩
  obtain ⟨port, special⟩ := kind
  have front_free :
      '\n' ∉ (rest.takeWhile fun c => !endsPath c).dropWhile
        (SchemeKind.special port).isSlash :=
    fun member => rest_free ((List.takeWhile_sublist _).mem
      ((List.dropWhile_sublist _).mem member))
  have behind_free : '\n' ∉ rest.dropWhile fun c => !endsPath c :=
    fun member => rest_free ((List.dropWhile_sublist _).mem member)
  rw [special] at hierarchy
  obtain ⟨written, authority_found, same⟩ :=
    Option.bind_eq_some_iff.mp
      (show authorityParts? (.special port) _ = some (authority, path)
        from hierarchy)
  cases same
  have query_free :=
    queryAndFragment_free (SchemeKind.ofScheme scheme).isSpecial behind_free
  exact {
    scheme := by
      rcases web with http | https
      · rw [http]
        exact NoLineFeed.literal rfl
      · rw [https]
        exact NoLineFeed.literal rfl
    authority := NoLineFeed.ofList
      (lineFeed_notMem_authority rfl
        (fun member => front_free ((List.takeWhile_sublist _).mem member))
        authority_found)
    path := NoLineFeed.ofList
      (lineFeed_notMem_pathBehindAuthority
        fun member => front_free ((List.drop_sublist _ _).mem member))
    query := query_free.1
    fragment := query_free.2 }

theorem noLineFeed_fieldsText (fields : List (String × String)) :
    NoLineFeed (fieldsText fields) := by
  refine NoLineFeed.intercalate (.literal rfl) ?_
  intro part member
  obtain ⟨field, _, rfl⟩ := List.mem_map.mp member
  refine NoLineFeed.ofList ?_
  rw [List.mem_append, List.mem_cons, not_or, not_or]
  exact ⟨lineFeed_notMem_encodeField field.1, by decide,
    lineFeed_notMem_encodeField field.2⟩

/-- Fields are encoded, so an address stays in its row when they are added. -/
theorem StaysInRow.withFields
    {address : Address}
    (stays : address.StaysInRow)
    (fields : List (String × String)) :
    (address.withFields fields).StaysInRow where
  scheme := stays.scheme
  authority := stays.authority
  path := stays.path
  query := by
    have present_free := stays.query
    refine NoLineFeed.append ?_ (noLineFeed_fieldsText fields)
    cases present : address.query with
    | none => exact NoLineFeed.empty
    | some query =>
        rw [present] at present_free
        rw [Option.filter_some]
        split
        · exact present_free.append (.literal rfl)
        · exact NoLineFeed.empty
  fragment := stays.fragment

/-- A written address is its scheme, a colon and a text without line feeds. -/
theorem StaysInRow.text
    {address : Address}
    (stays : address.StaysInRow) :
    ∃ rest, NoLineFeed rest ∧ address.text = address.scheme ++ ":" ++ rest := by
  have part_free :
      ∀ (mark : String) (part : Option String),
        NoLineFeed mark → NoLineFeed (part.getD "") →
          NoLineFeed ((part.map (mark ++ ·)).getD "") := by
    intro mark part mark_free free
    cases part with
    | none => exact NoLineFeed.empty
    | some content => exact mark_free.append free
  have query_free :=
    part_free "?" address.query (.literal rfl) stays.query
  have fragment_free :=
    part_free "#" address.fragment (.literal rfl) stays.fragment
  obtain ⟨start, start_free, written⟩ :
      ∃ start, NoLineFeed start ∧
        address.text = address.scheme ++ ":" ++ start ++ address.path ++
          ((address.query.map ("?" ++ ·)).getD "") ++
          ((address.fragment.map ("#" ++ ·)).getD "") := by
    have authority_free := stays.authority
    unfold Address.text
    cases found : address.authority with
    | some authority =>
        rw [found] at authority_free
        exact ⟨"//" ++ authority,
          (NoLineFeed.literal rfl).append authority_free, rfl⟩
    | none =>
        simp only
        split
        · exact ⟨"/.", (.literal rfl), rfl⟩
        · exact ⟨"", .empty, rfl⟩
  refine ⟨start ++ (address.path ++ ((address.query.map ("?" ++ ·)).getD "" ++
    (address.fragment.map ("#" ++ ·)).getD "")), ?_, ?_⟩
  · exact start_free.append
      (stays.path.append (query_free.append fragment_free))
  · rw [written]
    simp only [String.append_assoc]

end Address

end Guidebook.Url
