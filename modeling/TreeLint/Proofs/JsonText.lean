import Mathlib.Data.List.TakeWhile
import TreeLint.Json.Parse

/-! A value without decimals is what its written form is read as. -/

namespace TreeLint.Json

open Text

theorem head?_toDigits {n : Nat} (positive : 0 < n) : (Nat.toDigits 10 n).head? ≠ some '0' := by
  induction n using Nat.strongRecOn with
  | ind n ih =>
      by_cases small : n < 10
      · rw [Nat.toDigits_of_lt_base small]
        have shown : ∀ d < 10, 0 < d → [Nat.digitChar d].head? ≠ some '0' := by decide
        exact shown n small positive
      · have fewer := ih (n / 10) (by omega) (by omega)
        rw [Nat.toDigits_of_base_le (by omega) (by omega)]
        cases front : Nat.toDigits 10 (n / 10) with
        | nil => exact absurd front Nat.toDigits_ne_nil
        | cons d rest => simpa [front] using fewer

@[simp] theorem digits?_toDigits (n : Nat) :
    digits? (Nat.toDigits 10 n) = some (Nat.toDigits 10 n, []) := by
  have digit : ∀ c ∈ Nat.toDigits 10 n, c.isDigit = true :=
    fun c member => Nat.isDigit_of_mem_toDigits (by decide) (by decide) member
  rw [digits?, List.takeWhile_eq_self_iff.2 digit, List.dropWhile_eq_nil_iff.2 digit,
    if_neg (by simp [Nat.toDigits_ne_nil])]

@[simp] theorem whole?_toDigits (n : Nat) :
    whole? (Nat.toDigits 10 n) = some (Nat.toDigits 10 n, []) := by
  rw [whole?, digits?_toDigits]
  split
  next d rest _ same =>
    have digits := congrArg Prod.fst (Option.some.inj same)
    dsimp only at digits
    rcases Nat.eq_zero_or_pos n with rfl | positive
    · rw [Nat.toDigits_zero] at digits
      cases digits
    · exact absurd (by rw [digits]; rfl) (head?_toDigits positive)
  next => rfl

theorem unsigned?_toDigits {negative : Bool} {n : Nat} (signed : negative = true → n ≠ 0) :
    unsigned? negative (Nat.toDigits 10 n) = some (.int (if negative then -n else n)) := by
  have proper : ¬(negative = true ∧ n = 0) := fun ⟨isNegative, zero⟩ => signed isNegative zero
  simp [unsigned?, fraction?, exponent?, Nat.ofDigitChars_ten_toDigits, proper]

theorem word?_of_number {c : Char} {rest : List Char} (number : c.isDigit = true ∨ c = '-') :
    word? (c :: rest) = number? (c :: rest) := by
  unfold word?
  split
  next same =>
    cases same
    simp at number
  next same =>
    cases same
    simp at number
  next same =>
    cases same
    simp at number
  next => rfl

theorem number?_of_digit {c : Char} {rest : List Char} (digit : c.isDigit = true) :
    number? (c :: rest) = unsigned? false (c :: rest) := by
  unfold number?
  split
  next same =>
    cases same
    cases digit
  next => rfl

theorem toList_negSucc (n : Nat) :
    (toString (Int.negSucc n)).toList = '-' :: Nat.toDigits 10 (n + 1) := by
  change ("-" ++ Nat.repr (n + 1)).toList = _
  simp [Nat.repr]

@[simp] theorem word?_int (n : Int) : word? (toString n).toList = some (.int n) := by
  cases n with
  | ofNat n =>
      have shown : (toString (Int.ofNat n)).toList = Nat.toDigits 10 n := String.toList_ofList
      rw [shown]
      cases digits : Nat.toDigits 10 n with
      | nil => exact absurd digits Nat.toDigits_ne_nil
      | cons c rest =>
          have digit : c.isDigit = true :=
            Nat.isDigit_of_mem_toDigits (by decide) (by decide) (digits ▸ List.mem_cons_self ..)
          rw [word?_of_number (.inl digit), number?_of_digit digit, ← digits]
          exact unsigned?_toDigits nofun
  | negSucc n =>
      rw [toList_negSucc, word?_of_number (.inr rfl), number?, unsigned?_toDigits fun _ => by omega]
      rfl

@[simp] theorem hexValue?_hexDigit (n : Nat) : hexValue? (hexDigit n) = some (n % 16) := by
  have values : ∀ d < 16, hexValue? (Nat.digitChar d) = some d := by decide
  exact values (n % 16) (Nat.mod_lt n (by decide))

theorem tokens?_unicodeEscape (read : List Char) {c : Char} (control : c.toNat < 32)
    (rest : List Char) :
    tokens? (.string read) (unicodeEscape c.toNat ++ rest) =
      tokens? (.string (c :: read)) rest := by
  have code : c.toNat / 4096 % 16 * 4096 + c.toNat / 256 % 16 * 256 + c.toNat / 16 % 16 * 16 +
      c.toNat % 16 = c.toNat := by omega
  have notHigh : ¬(0xd800 ≤ c.toNat ∧ c.toNat < 0xdc00) := by omega
  have notLow : ¬(0xdc00 ≤ c.toNat ∧ c.toNat < 0xe000) := by omega
  have mode : unicodeMode? read none c.toNat = some (.string (c :: read)) := by
    rw [unicodeMode?, if_neg notHigh, if_neg notLow, Char.ofNat_toNat]
  simp [unicodeEscape, tokens?, Mode.next?, code, mode]

@[simp] theorem tokens?_escapeChar (read : List Char) (c : Char) (rest : List Char) :
    tokens? (.string read) (escapeChar c ++ rest) = tokens? (.string (c :: read)) rest := by
  have named {n : Nat} (code : c.toNat = n) : Char.ofNat n = c := by
    rw [← code, Char.ofNat_toNat]
  unfold escapeChar
  split_ifs with quote backslash newline return_ tab backspace feed control
  · simp [tokens?, Mode.next?, unescape?, quote]
  · simp [tokens?, Mode.next?, unescape?, backslash]
  · simp [tokens?, Mode.next?, unescape?, newline]
  · simp [tokens?, Mode.next?, unescape?, return_]
  · simp [tokens?, Mode.next?, unescape?, tab]
  · rw [← named backspace]
    simp [tokens?, Mode.next?, unescape?]
  · rw [← named feed]
    simp [tokens?, Mode.next?, unescape?]
  · exact tokens?_unicodeEscape read control rest
  · simp [tokens?, Mode.next?, quote, backslash, control]

theorem tokens?_string (read text rest : List Char) :
    tokens? (.string read) (text.flatMap escapeChar ++ '"' :: rest) =
      (tokens? .between rest).map (.string (String.ofList (read.reverse ++ text)) :: ·) := by
  induction text generalizing read with
  | nil =>
      simp [tokens?, Mode.next?]
  | cons c later ih =>
      rw [List.flatMap_cons, List.append_assoc, tokens?_escapeChar, ih]
      simp

@[simp] theorem tokens?_quote (s : String) (rest : List Char) :
    tokens? .between ((quote s).toList ++ rest) =
      (tokens? .between rest).map (.string s :: ·) := by
  have opened : tokens? .between ('"' :: (s.toList.flatMap escapeChar ++ '"' :: rest)) =
      tokens? (.string []) (s.toList.flatMap escapeChar ++ '"' :: rest) := by
    simp [tokens?, Mode.next?, start?]
  rw [quote, String.toList_ofList]
  simp [opened, tokens?_string]

def Delimited (text : List Char) : Prop := ∀ c ∈ text.head?, isWordChar c = false

theorem start?_of_isWordChar {c : Char} (inWord : isWordChar c = true) :
    start? c = some ([], .word [c]) := by
  unfold start?
  split
  case h_12 => rw [if_pos inWord]
  all_goals exact absurd inWord (by decide)

theorem tokens?_of_word {read : List Char} {value : Json} (reads : word? read.reverse = some value)
    {rest : List Char} (delimited : Delimited rest) :
    tokens? (.word read) rest = (tokens? .between rest).map (.word value :: ·) := by
  cases rest with
  | nil => simp [tokens?, Mode.finish?, reads]
  | cons c rest =>
      have outside : isWordChar c = false := delimited c rfl
      cases started : start? c with
      | none => simp [tokens?, Mode.next?, outside, reads, started]
      | some both => simp [tokens?, Mode.next?, outside, reads, started, Function.comp_def]

theorem tokens?_inWord (read word : List Char) (inWord : ∀ c ∈ word, isWordChar c = true)
    (rest : List Char) :
    tokens? (.word read) (word ++ rest) = tokens? (.word (word.reverse ++ read)) rest := by
  induction word generalizing read with
  | nil => rfl
  | cons c later ih =>
      obtain ⟨first, others⟩ := List.forall_mem_cons.1 inWord
      simp [tokens?, Mode.next?, first, ih _ others]

theorem tokens?_word {word : List Char} {value : Json} (reads : word? word = some value)
    (inWord : ∀ c ∈ word, isWordChar c = true) (filled : word ≠ []) {rest : List Char}
    (delimited : Delimited rest) :
    tokens? .between (word ++ rest) = (tokens? .between rest).map (.word value :: ·) := by
  cases word with
  | nil => exact absurd rfl filled
  | cons c later =>
      obtain ⟨first, others⟩ := List.forall_mem_cons.1 inWord
      have entered : tokens? .between (c :: (later ++ rest)) =
          tokens? (.word [c]) (later ++ rest) := by
        simp [tokens?, Mode.next?, start?_of_isWordChar first]
      rw [List.cons_append, entered, tokens?_inWord _ _ others]
      exact tokens?_of_word (by simpa using reads) delimited

mutual
def hasDecimal : Json → Bool
  | decimal _ => true
  | array items => anyDecimal items
  | object members => anyMemberDecimal members
  | _ => false

def anyDecimal : List Json → Bool
  | [] => false
  | item :: rest => hasDecimal item || anyDecimal rest

def anyMemberDecimal : List (String × Json) → Bool
  | [] => false
  | (_, value) :: rest => hasDecimal value || anyMemberDecimal rest
end

mutual
def tokensOf : Json → List Token
  | array items => .openArray :: (itemTokens items ++ [.closeArray])
  | object members => .openObject :: (memberTokens members ++ [.closeObject])
  | string value => [.string value]
  | value => [.word value]

def itemTokens : List Json → List Token
  | [] => []
  | [item] => tokensOf item
  | item :: next :: rest => tokensOf item ++ .comma :: itemTokens (next :: rest)

def memberTokens : List (String × Json) → List Token
  | [] => []
  | [(key, value)] => .string key :: .colon :: tokensOf value
  | (key, value) :: next :: rest =>
      .string key :: .colon :: (tokensOf value ++ .comma :: memberTokens (next :: rest))
end

/-- The text is split into the tokens, and into those of what comes after it. -/
def Spells (text : String) (tokens : List Token) : Prop :=
  ∀ rest, Delimited rest →
    tokens? .between (text.toList ++ rest) = (tokens? .between rest).map (tokens ++ ·)

theorem delimited_of_head {c : Char} (rest : List Char) (outside : isWordChar c = false) :
    Delimited (c :: rest) := by
  intro first same
  cases same
  exact outside

theorem tokens?_symbol {c : Char} {token : Token} (starts : start? c = some ([token], .between))
    (rest : List Char) :
    tokens? .between (c :: rest) = (tokens? .between rest).map (token :: ·) := by
  simp [tokens?, Mode.next?, starts]

theorem tokens?_blank {c : Char} (starts : start? c = some ([], .between)) (rest : List Char) :
    tokens? .between (c :: rest) = tokens? .between rest := by
  simp [tokens?, Mode.next?, starts]

@[simp] theorem tokens?_indentation (depth : Nat) (rest : List Char) :
    tokens? .between ((indentation depth).toList ++ rest) = tokens? .between rest := by
  have blanks (count : Nat) :
      tokens? .between (List.replicate count ' ' ++ rest) = tokens? .between rest := by
    induction count with
    | zero => rfl
    | succ count ih => rw [List.replicate_succ, List.cons_append, tokens?_blank rfl, ih]
  rw [indentation, String.toList_ofList, blanks]

theorem spells_word {text : String} {value : Json} (reads : word? text.toList = some value)
    (inWord : text.toList.all isWordChar = true) (filled : text.toList ≠ []) :
    Spells text [.word value] :=
  fun _ delimited => tokens?_word reads (List.all_eq_true.1 inWord) filled delimited

theorem isWordChar_of_mem_toDigits {n : Nat} {c : Char} (member : c ∈ Nat.toDigits 10 n) :
    isWordChar c = true := by
  have digit := Nat.isDigit_of_mem_toDigits (by decide) (by decide) member
  simp [isWordChar, Char.isAlphanum, digit]

theorem spells_int (n : Int) : Spells (toString n) [.word (.int n)] := by
  cases n with
  | ofNat n =>
      have shown : (toString (Int.ofNat n)).toList = Nat.toDigits 10 n := String.toList_ofList
      refine spells_word (word?_int _) ?_ ?_
      · rw [shown, List.all_eq_true]
        exact fun c => isWordChar_of_mem_toDigits
      · rw [shown]
        exact Nat.toDigits_ne_nil
  | negSucc n =>
      have shown := toList_negSucc n
      refine spells_word (word?_int _) ?_ ?_
      · rw [shown, List.all_eq_true, List.forall_mem_cons]
        exact ⟨by decide, fun c => isWordChar_of_mem_toDigits⟩
      · rw [shown]
        exact List.cons_ne_nil _ _

theorem spells_enclose {opening closing : String} {o c : Char} {first last : Token}
    (isOpening : opening.toList = [o]) (isClosing : closing.toList = [c])
    (opens : start? o = some ([first], .between)) (closes : start? c = some ([last], .between))
    {lines : List String} {tokens : List Token}
    (inside : Spells (String.intercalate ",\n" lines) tokens) (empty : lines = [] → tokens = [])
    (depth : Nat) :
    Spells (enclose depth opening closing lines) (first :: (tokens ++ [last])) := by
  intro rest delimited
  unfold enclose
  split
  next none =>
    rw [empty (List.isEmpty_iff.1 none), String.toList_append, isOpening, isClosing]
    simp [tokens?_symbol opens, tokens?_symbol closes, Function.comp_def]
  next =>
    have text : (opening ++ "\n" ++ String.intercalate ",\n" lines ++ "\n" ++ indentation depth ++
        closing).toList ++ rest =
        o :: '\n' :: ((String.intercalate ",\n" lines).toList ++
          '\n' :: ((indentation depth).toList ++ c :: rest)) := by
      simp only [String.toList_append, isOpening, isClosing, List.append_assoc]
      rfl
    rw [text, tokens?_symbol opens, tokens?_blank rfl,
      inside _ (delimited_of_head _ (by decide)), tokens?_blank rfl, tokens?_indentation,
      tokens?_symbol closes]
    simp [Function.comp_def]

theorem spells_line (depth : Nat) {text : String} {tokens : List Token}
    (spells : Spells text tokens) : Spells (indentation depth ++ text) tokens := by
  intro rest delimited
  rw [String.toList_append, List.append_assoc, tokens?_indentation, spells rest delimited]

theorem spells_lines {line next : String} {lines : List String} {tokens others : List Token}
    (first : Spells line tokens)
    (later : Spells (String.intercalate ",\n" (next :: lines)) others) :
    Spells (String.intercalate ",\n" (line :: next :: lines)) (tokens ++ .comma :: others) := by
  intro rest delimited
  have text : (String.intercalate ",\n" (line :: next :: lines)).toList ++ rest =
      line.toList ++
        ',' :: '\n' :: ((String.intercalate ",\n" (next :: lines)).toList ++ rest) := by
    simp only [String.intercalate_cons_cons, String.toList_append, List.append_assoc]
    rfl
  rw [text, first _ (delimited_of_head _ (by decide)), tokens?_symbol rfl, tokens?_blank rfl,
    later rest delimited]
  simp [Function.comp_def]

theorem spells_member (depth : Nat) (key : String) {text : String} {tokens : List Token}
    (spells : Spells text tokens) :
    Spells (indentation depth ++ quote key ++ ": " ++ text) (.string key :: .colon :: tokens) := by
  intro rest delimited
  have whole : (indentation depth ++ quote key ++ ": " ++ text).toList ++ rest =
      (indentation depth).toList ++ ((quote key).toList ++
        ':' :: ' ' :: (text.toList ++ rest)) := by
    simp only [String.toList_append, List.append_assoc]
    rfl
  rw [whole, tokens?_indentation, tokens?_quote, tokens?_symbol rfl, tokens?_blank rfl,
    spells rest delimited]
  simp [Function.comp_def]

mutual
theorem spells_prettyAt (depth : Nat) : (value : Json) → value.hasDecimal = false →
    Spells (prettyAt depth value) (tokensOf value)
  | .null, _ => show Spells "null" _ from spells_word rfl (by decide) (by decide)
  | .bool true, _ => show Spells "true" _ from spells_word rfl (by decide) (by decide)
  | .bool false, _ => show Spells "false" _ from spells_word rfl (by decide) (by decide)
  | .int n, _ => spells_int n
  | .string s, _ => fun rest _ => tokens?_quote s rest
  | .array items, whole =>
      spells_enclose rfl rfl rfl rfl (spells_prettyItems (depth + 1) items whole)
        (by cases items <;> simp [prettyItems, itemTokens]) depth
  | .object members, whole =>
      spells_enclose rfl rfl rfl rfl (spells_prettyMembers (depth + 1) members whole)
        (by cases members <;> simp [prettyMembers, memberTokens]) depth

theorem spells_prettyItems (depth : Nat) : (items : List Json) → anyDecimal items = false →
    Spells (String.intercalate ",\n" (prettyItems depth items)) (itemTokens items)
  | [], _ => fun rest _ => by
      simp [prettyItems, itemTokens]
  | [item], whole => by
      obtain ⟨first, -⟩ := Bool.or_eq_false_iff.1 whole
      rw [prettyItems, prettyItems, String.intercalate_singleton, itemTokens]
      exact spells_line depth (spells_prettyAt depth item first)
  | item :: next :: rest, whole => by
      obtain ⟨first, others⟩ := Bool.or_eq_false_iff.1 whole
      have later := spells_prettyItems depth (next :: rest) others
      rw [prettyItems] at later
      rw [prettyItems, prettyItems, itemTokens]
      exact spells_lines (spells_line depth (spells_prettyAt depth item first)) later

theorem spells_prettyMembers (depth : Nat) : (members : List (String × Json)) →
    anyMemberDecimal members = false →
    Spells (String.intercalate ",\n" (prettyMembers depth members)) (memberTokens members)
  | [], _ => fun rest _ => by
      simp [prettyMembers, memberTokens]
  | [(key, value)], whole => by
      obtain ⟨first, -⟩ := Bool.or_eq_false_iff.1 whole
      rw [prettyMembers, prettyMembers, String.intercalate_singleton, memberTokens]
      exact spells_member depth key (spells_prettyAt depth value first)
  | (key, value) :: next :: rest, whole => by
      obtain ⟨first, others⟩ := Bool.or_eq_false_iff.1 whole
      have later := spells_prettyMembers depth (next :: rest) others
      rw [prettyMembers] at later
      rw [prettyMembers, prettyMembers, memberTokens]
      exact spells_lines (spells_member depth key (spells_prettyAt depth value first)) later
end

def stageAfter (stage : Stage) (tokens : List Token) : Option Stage :=
  tokens.foldlM Stage.next? stage

theorem stageAfter_cons {stage next : Stage} {token : Token} (goes : stage.next? token = some next)
    (rest : List Token) : stageAfter stage (token :: rest) = stageAfter next rest := by
  simp [stageAfter, goes]

theorem stageAfter_firstItem (outer : List Frame) (item : Json) (items : List Json)
    (rest : List Token) :
    stageAfter (.firstItem outer) (itemTokens (item :: items) ++ rest) =
      stageAfter (.wants (.array [] :: outer)) (itemTokens (item :: items) ++ rest) := by
  cases items <;> cases item <;> simp [itemTokens, tokensOf, stageAfter, Stage.next?]

theorem stageAfter_firstKey (outer : List Frame) (member : String × Json)
    (members : List (String × Json)) (rest : List Token) :
    stageAfter (.firstKey outer) (memberTokens (member :: members) ++ rest) =
      stageAfter (.key [] outer) (memberTokens (member :: members) ++ rest) := by
  cases members <;> simp [memberTokens, stageAfter, Stage.next?]

mutual
theorem stageAfter_tokensOf (outer : List Frame) (rest : List Token) : (value : Json) →
    stageAfter (.wants outer) (tokensOf value ++ rest) = stageAfter (.ended value outer) rest
  | .null => stageAfter_cons rfl rest
  | .bool _ => stageAfter_cons rfl rest
  | .int _ => stageAfter_cons rfl rest
  | .decimal _ => stageAfter_cons rfl rest
  | .string _ => stageAfter_cons rfl rest
  | .array [] => (stageAfter_cons rfl _).trans (stageAfter_cons rfl rest)
  | .array (item :: items) => by
      rw [tokensOf, List.cons_append, List.append_assoc]
      refine (stageAfter_cons rfl _).trans ?_
      rw [stageAfter_firstItem]
      exact stageAfter_itemTokens outer rest [] (item :: items) nofun
  | .object [] => (stageAfter_cons rfl _).trans (stageAfter_cons rfl rest)
  | .object (member :: members) => by
      rw [tokensOf, List.cons_append, List.append_assoc]
      refine (stageAfter_cons rfl _).trans ?_
      rw [stageAfter_firstKey]
      exact stageAfter_memberTokens outer rest [] (member :: members) nofun

theorem stageAfter_itemTokens (outer : List Frame) (rest : List Token) (done : List Json) :
    (items : List Json) → items ≠ [] →
    stageAfter (.wants (.array done :: outer)) (itemTokens items ++ .closeArray :: rest) =
      stageAfter (.ended (.array (done.reverse ++ items)) outer) rest
  | [], filled => absurd rfl filled
  | [item], _ => by
      rw [itemTokens, stageAfter_tokensOf]
      exact (stageAfter_cons rfl rest).trans (by simp)
  | item :: next :: items, _ => by
      rw [itemTokens, List.append_assoc, stageAfter_tokensOf]
      refine (stageAfter_cons rfl _).trans ?_
      refine (stageAfter_itemTokens outer rest (item :: done) (next :: items) nofun).trans ?_
      simp

theorem stageAfter_memberTokens (outer : List Frame) (rest : List Token)
    (done : List (String × Json)) : (members : List (String × Json)) → members ≠ [] →
    stageAfter (.key done outer) (memberTokens members ++ .closeObject :: rest) =
      stageAfter (.ended (.object (done.reverse ++ members)) outer) rest
  | [], filled => absurd rfl filled
  | [(key, value)], _ => by
      rw [memberTokens]
      refine (stageAfter_cons rfl _).trans ((stageAfter_cons rfl _).trans ?_)
      refine (stageAfter_tokensOf _ _ value).trans ?_
      exact (stageAfter_cons rfl rest).trans (by simp)
  | (key, value) :: next :: members, _ => by
      rw [memberTokens, List.cons_append, List.cons_append, List.append_assoc]
      refine (stageAfter_cons rfl _).trans ((stageAfter_cons rfl _).trans ?_)
      rw [stageAfter_tokensOf]
      refine (stageAfter_cons rfl _).trans ?_
      refine (stageAfter_memberTokens outer rest ((key, value) :: done) (next :: members)
        nofun).trans ?_
      simp
end

theorem parse?_pretty {value : Json} (whole : value.hasDecimal = false) :
    parse? (value.pretty ++ "\n") = some value := by
  have ended : Delimited ['\n'] := delimited_of_head _ (by decide)
  have split : tokens? .between (value.pretty ++ "\n").toList = some (tokensOf value) := by
    rw [String.toList_append]
    refine (spells_prettyAt 0 value whole _ ended).trans ?_
    simp [tokens?, Mode.next?, start?, Mode.finish?]
  have joined : (tokensOf value).foldlM Stage.next? (.wants []) = some (.ended value []) := by
    simpa [stageAfter] using stageAfter_tokensOf [] [] value
  rw [parse?, split]
  simp [joined]

end TreeLint.Json
