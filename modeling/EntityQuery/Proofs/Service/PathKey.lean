import EntityQuery.Proofs.Query.StringOption
import EntityQuery.Request
import EntityQuery.Service.Reading

/-!
# A quoted key in a path

The literal of a string in the parentheses after the name of an entity set, with its characters
written raw or escaped in any mix.  The path is decoded outside the quotes only, so that nothing in
the literal is taken for a part of the path, and converting the key undoes the rest.
-/

set_option autoImplicit false

namespace EntityQuery

section Trimming

variable (drops : Char → Bool) {first last : Char}

theorem Text.trimBoth_cons (kept : drops first = false) (rest : List Char) :
    Text.trimBoth drops (first :: rest) = first :: (rest.reverse.dropWhile drops).reverse := by
  rw [Text.trimBoth, List.dropWhile_cons_of_neg (by simp [kept]), List.reverse_cons,
    List.dropWhile_append]
  split
  · next none =>
    rw [List.isEmpty_iff.mp none, List.dropWhile_cons_of_neg (by simp [kept])]
    rfl
  · rw [List.reverse_append]
    rfl

/-- Text that neither starts nor ends with a dropped character stays as it is. -/
theorem Text.trimBoth_closed (kept : drops first = false) (keptLast : drops last = false)
    (middle : List Char) :
    Text.trimBoth drops (first :: (middle ++ [last])) = first :: (middle ++ [last]) := by
  rw [Text.trimBoth_cons drops kept, List.reverse_append, List.reverse_singleton,
    List.singleton_append, List.dropWhile_cons_of_neg (by simp [keptLast]), List.reverse_cons,
    List.reverse_reverse]

end Trimming

/-- A name that stands for itself in front of a key in parentheses. -/
def IsSetName (name : List Char) : Prop :=
  name ≠ [] ∧ name.head? ≠ some '/' ∧ ∀ symbol ∈ name, symbol ∉ ['(', '\'', '%', '+']

namespace Resource

theorem ofPath?_parenthesized {name key : List Char} (present : name ≠ []) (noOpening : '(' ∉ name)
    (someKey : key ≠ []) :
    ofPath? (name ++ '(' :: (key ++ [')'])) =
      some ⟨String.ofList name, some (String.ofList key)⟩ := by
  have before : ∀ symbol ∈ name, (symbol != '(') = true := by
    intro symbol member
    simp only [bne_iff_ne, ne_eq]
    rintro rfl
    exact noOpening member
  have set : (name ++ '(' :: (key ++ [')'])).takeWhile (· != '(') = name := by
    rw [List.takeWhile_append_of_pos before]
    simp
  have rest : (name ++ '(' :: (key ++ [')'])).dropWhile (· != '(') = '(' :: (key ++ [')']) := by
    rw [List.dropWhile_append_of_pos before]
    simp
  rw [ofPath?, set, rest]
  simp [present, someKey]

theorem trim_parenthesized {name : List Char} (present : name ≠ [])
    (noSlash : name.head? ≠ some '/') (key : List Char) :
    Text.trimBoth (· == '/') (name ++ '(' :: (key ++ [')'])) = name ++ '(' :: (key ++ [')']) := by
  obtain ⟨first, rest, rfl⟩ := List.exists_cons_of_ne_nil present
  have keepsFirst : (first == '/') = false := by simpa using noSlash
  have keepsLast : (')' == '/') = false := by decide
  have closed := Text.trimBoth_closed (· == '/') keepsFirst keepsLast (rest ++ '(' :: key)
  simpa using closed

/-- A key in quotes is kept as the scanner leaves it, whatever its characters would mean in a
path. -/
theorem read_quoted {set : String} (isName : IsSetName set.toList)
    {held opening inside closing : List Char} (writesOpening : Text.WritesInPath '\'' opening)
    (writesInside : Text.WritesEach (Text.doubleQuotes held) inside)
    (writesClosing : Text.WritesInPath '\'' closing) :
    read (set ++ "(" ++ String.ofList (opening ++ (inside ++ closing)) ++ ")") =
      .ok ⟨set, some (String.ofList ('\'' :: (Text.escapePlus inside ++ ['\''])))⟩ := by
  obtain ⟨present, noSlash, plainName⟩ := isName
  have plain : ∀ symbol ∈ set.toList ++ ['('], symbol ∉ ['%', '+', '\''] := by
    intro symbol member
    rcases List.mem_append.mp member with inName | opens
    · intro special
      refine plainName symbol inName ?_
      revert special
      simp only [List.mem_cons, List.not_mem_nil, or_false]
      tauto
    · rw [List.mem_singleton.mp opens]
      decide
  have plainAfter : ∀ symbol ∈ [')'], symbol ∉ ['%', '+', '\''] := by simp
  have noOpening : '(' ∉ set.toList := fun member => plainName '(' member (by decide)
  have segment : (set ++ "(" ++ String.ofList (opening ++ (inside ++ closing)) ++ ")").toList =
      set.toList ++ ['('] ++ (opening ++ (inside ++ (closing ++ [')']))) := by
    simp
  have path : set.toList ++ ['('] ++ '\'' :: (Text.escapePlus inside ++ '\'' :: [')']) =
      set.toList ++ '(' :: ('\'' :: (Text.escapePlus inside ++ ['\'']) ++ [')']) := by
    simp
  have parts := ofPath?_parenthesized present noOpening
    (List.cons_ne_nil '\'' (Text.escapePlus inside ++ ['\'']))
  rw [String.ofList_toList] at parts
  rw [read, segment,
    Text.decodeUnquoted?_quoted writesOpening writesInside writesClosing plain plainAfter]
  simp only [path, trim_parenthesized present noSlash, parts]

end Resource

/-- A raw key that starts with a quote is no pair of a name and a value, unless the name of the key
starts with one too. -/
theorem Services.parseKey_quoted {type : EntityType} {column : Column}
    (primary : type.primaryKey? = some column) (unquoted : column.name.toList.head? ≠ some '\'')
    (rest : List Char) :
    Services.parseKey type (String.ofList ('\'' :: rest)) =
      Literal.convert column.type (String.ofList ('\'' :: rest)) := by
  have apart : ∀ front, Text.trim ('\'' :: front) ≠ column.name.toList := by
    intro front same
    rw [Text.trim, Text.trimBoth_cons _ (by decide)] at same
    rw [← same] at unquoted
    exact unquoted rfl
  have notPair : ∀ name value, Query.splitOnce? '=' ('\'' :: rest) = some (name, value) →
      Text.trim name ≠ column.name.toList := by
    intro name value found
    rw [Query.splitOnce?] at found
    split at found
    · cases found
    · have front := (Prod.mk.inj (Option.some.inj found)).1
      rw [List.takeWhile_cons_of_pos (by decide)] at front
      rw [← front]
      exact apart _
  simp only [Services.parseKey, primary, String.toList_ofList]
  split
  · next name value found => rw [if_neg (notPair name value found)]
  · rfl

/-- However the literal of a string is written in the parentheses after the name of a set, the path
addresses that set with a raw key that stands for exactly that string. -/
theorem Resource.quoted_key_reads_back {set : String} (isName : IsSetName set.toList)
    {type : EntityType} {column : Column} (primary : type.primaryKey? = some column)
    (isString : column.type = .string) (unquoted : column.name.toList.head? ≠ some '\'')
    {held text : String} (writes : Text.WritesEach (Text.quote held.toList) text.toList) :
    ∃ key, Resource.read (set ++ "(" ++ text ++ ")") = .ok ⟨set, some key⟩ ∧
      Services.parseKey type key = .ok (.string held) := by
  rw [Text.quote] at writes
  obtain ⟨opening, others, whole, writesOpening, writesOthers⟩ := writes.uncons
  obtain ⟨inside, closing, writesInside, writesClosing, rfl⟩ := writesOthers.split_last
  have read := Resource.read_quoted isName writesOpening writesInside writesClosing
  rw [← whole, String.ofList_toList] at read
  refine ⟨_, read, ?_⟩
  rw [Services.parseKey_quoted primary unquoted, isString, Query.convert_writes writesInside,
    String.ofList_toList]

/-- The string has a quote written in two ways, a parenthesis, an equals sign, a slash and the signs
that escapes are made of. -/
theorem Resource.quoted_key_reads_back_people :
    IsSetName "People".toList ∧
      Text.WritesEach (Text.quote "O'=(é)/ %+'".toList)
        "%27O%27'=(%C3%a9)/+%25%2b'%27'".toList ∧
      ∃ key, Resource.read ("People" ++ "(" ++ "%27O%27'=(%C3%a9)/+%25%2b'%27'" ++ ")") =
          .ok ⟨"People", some key⟩ ∧
        Services.parseKey ⟨"Person", "people", none, [⟨"Name", "name", .string, true, false⟩], []⟩
          key = .ok (.string "O'=(é)/ %+'") := by
  have isName : IsSetName "People".toList := ⟨by decide, by decide, by simp⟩
  have byte (byte : UInt8) {symbol high low : Char} (single : String.utf8EncodeChar symbol = [byte])
      (isHigh : Text.IsDigitOf (byte.toNat / 16) high)
      (isLow : Text.IsDigitOf (byte.toNat % 16) low) :
      Text.WritesInPath symbol ['%', high, low] :=
    .escaped (single ▸ .cons isHigh isLow .nil)
  have quote : Text.WritesInPath '\'' ['%', '2', '7'] :=
    byte 0x27 (by decide) (Or.inl (by decide)) (Or.inl (by decide))
  have percent : Text.WritesInPath '%' ['%', '2', '5'] :=
    byte 0x25 (by decide) (Or.inl (by decide)) (Or.inl (by decide))
  have plus : Text.WritesInPath '+' ['%', '2', 'b'] :=
    byte 0x2b (by decide) (Or.inl (by decide)) (Or.inl (by decide))
  have accented : Text.WritesInPath 'é' ['%', 'C', '3', '%', 'a', '9'] :=
    .escaped (.cons (Or.inr (by decide)) (Or.inl (by decide))
      (.cons (Or.inl (by decide)) (Or.inl (by decide)) .nil))
  have raw (symbol : Char) (plain : symbol ∉ ['%', '+']) : Text.WritesInPath symbol [symbol] :=
    .raw plain
  have writes : Text.WritesEach (Text.quote "O'=(é)/ %+'".toList)
      "%27O%27'=(%C3%a9)/+%25%2b'%27'".toList :=
    .cons quote <| .cons (raw 'O' (by decide)) <| .cons quote <| .cons (raw '\'' (by decide)) <|
      .cons (raw '=' (by decide)) <| .cons (raw '(' (by decide)) <| .cons accented <|
      .cons (raw ')' (by decide)) <| .cons (raw '/' (by decide)) <| .cons (.plus rfl) <|
      .cons percent <| .cons plus <| .cons (raw '\'' (by decide)) <| .cons quote <|
      .cons (raw '\'' (by decide)) .nil
  have unquoted : "Name".toList.head? ≠ some '\'' := by decide
  exact ⟨isName, writes, Resource.quoted_key_reads_back isName rfl rfl unquoted writes⟩

end EntityQuery
