import Mathlib.Data.List.Basic
import Mathlib.Tactic.Basic

/-! JSON values as the client and the API server handle a ClusterPackage's `spec.config`: the
value a `runtime.RawExtension` holds once decoded, the decoder that decides whether raw bytes
are one JSON value (encoding/json's scanner, with `unquote` for strings), and the merge of a
`client.Merge` patch (RFC 7386). Objects are Go maps: a key is stored once, the last
occurrence wins, and member order carries no meaning. Numbers keep their literal text. -/

namespace PackageOperator.Api

/-- A decoded JSON value. -/
inductive Json where
  | null
  | bool (b : Bool)
  | number (literal : String)
  | string (s : String)
  | array (elements : List Json)
  | object (members : List (String × Json))
deriving Repr

namespace Json

mutual

def decEq : (a b : Json) → Decidable (a = b)
  | .null, .null => isTrue rfl
  | .bool a, .bool b => if h : a = b then isTrue (h ▸ rfl) else isFalse fun e => h (bool.inj e)
  | .number a, .number b => if h : a = b then isTrue (h ▸ rfl) else isFalse fun e => h (number.inj e)
  | .string a, .string b => if h : a = b then isTrue (h ▸ rfl) else isFalse fun e => h (string.inj e)
  | .array as, .array bs => match decEqElements as bs with
    | isTrue h => isTrue (h ▸ rfl)
    | isFalse h => isFalse fun e => h (array.inj e)
  | .object ms, .object ns => match decEqMembers ms ns with
    | isTrue h => isTrue (h ▸ rfl)
    | isFalse h => isFalse fun e => h (object.inj e)
  | .null, .bool _ | .null, .number _ | .null, .string _ | .null, .array _ | .null, .object _
  | .bool _, .null | .bool _, .number _ | .bool _, .string _ | .bool _, .array _ | .bool _, .object _
  | .number _, .null | .number _, .bool _ | .number _, .string _ | .number _, .array _ | .number _, .object _
  | .string _, .null | .string _, .bool _ | .string _, .number _ | .string _, .array _ | .string _, .object _
  | .array _, .null | .array _, .bool _ | .array _, .number _ | .array _, .string _ | .array _, .object _
  | .object _, .null | .object _, .bool _ | .object _, .number _ | .object _, .string _ | .object _, .array _ =>
    isFalse nofun

def decEqElements : (as bs : List Json) → Decidable (as = bs)
  | [], [] => isTrue rfl
  | [], _ :: _ | _ :: _, [] => isFalse nofun
  | a :: as, b :: bs => match decEq a b, decEqElements as bs with
    | isTrue h, isTrue h' => isTrue (h ▸ h' ▸ rfl)
    | isFalse h, _ => isFalse fun e => h (List.cons.inj e).1
    | _, isFalse h' => isFalse fun e => h' (List.cons.inj e).2

def decEqMembers : (ms ns : List (String × Json)) → Decidable (ms = ns)
  | [], [] => isTrue rfl
  | [], _ :: _ | _ :: _, [] => isFalse nofun
  | (k, a) :: ms, (l, b) :: ns =>
    if hk : k = l then match decEq a b, decEqMembers ms ns with
      | isTrue h, isTrue h' => isTrue (hk ▸ h ▸ h' ▸ rfl)
      | isFalse h, _ => isFalse fun e => h (Prod.mk.inj (List.cons.inj e).1).2
      | _, isFalse h' => isFalse fun e => h' (List.cons.inj e).2
    else isFalse fun e => hk (Prod.mk.inj (List.cons.inj e).1).1

end

instance : DecidableEq Json := decEq

end Json

/-- `m[key] = value` on a Go map held as an association list. -/
def mapSet {β : Type} (m : List (String × β)) (key : String) (value : β) : List (String × β) :=
  if m.any (·.1 == key) then m.map fun l => if l.1 = key then (key, value) else l
  else m ++ [(key, value)]

/-- Overwriting the pairs under `key` changes what the map reads there only. -/
theorem lookup_map_set {β : Type} (m : List (String × β)) (key : String) (value : β) (k : String) :
    (m.map fun l => if l.1 = key then (key, value) else l).lookup k =
      if k = key then (m.lookup k).map fun _ => value else m.lookup k := by
  induction m with
  | nil => simp
  | cons p m ih =>
    obtain ⟨a, b⟩ := p
    by_cases found : k = a
    · subst found
      by_cases same : k = key <;> simp [List.lookup_cons, same]
    · have differs := beq_false_of_ne found
      by_cases same : a = key
      · subst same; simp [List.lookup_cons, differs, found, ih]
      · simp [List.lookup_cons, differs, same, ih]

/-- After `m[key] = value` the map reads `value` under `key` and as before elsewhere. -/
theorem lookup_mapSet {β : Type} (m : List (String × β)) (key : String) (value : β) (k : String) :
    (mapSet m key value).lookup k = if k = key then some value else m.lookup k := by
  unfold mapSet
  split
  · next present =>
    rw [lookup_map_set]
    split
    · next same =>
      subst same
      obtain ⟨p, member, named⟩ := List.any_eq_true.mp present
      have found : (m.lookup p.1).isSome := List.lookup_isSome_iff.mpr ⟨p, member, beq_self_eq_true _⟩
      rw [beq_iff_eq.mp named] at found
      obtain ⟨_, stored⟩ := Option.isSome_iff_exists.mp found
      simp [stored]
    · rfl
  · next absent =>
    simp only [List.any_eq_true, beq_iff_eq, not_exists, not_and] at absent
    rw [List.lookup_append]
    split
    · next same =>
      subst same
      have unset : m.lookup k = none :=
        List.lookup_eq_none_iff.mpr fun p member => bne_iff_ne.mpr (Ne.symm (absent p member))
      simp [unset]
    · next other => simp [List.lookup_cons, beq_false_of_ne other]

namespace Json

/-! ## Decoding -/

/-- encoding/json's `isSpace`. -/
def isSpace (c : Char) : Bool := c == ' ' || c == '\t' || c == '\r' || c == '\n'

/-- The one-character escapes the scanner accepts after a backslash, and what they stand for. -/
def escape : Char → Option Char
  | '"' => some '"'
  | '\\' => some '\\'
  | '/' => some '/'
  | 'b' => some '\x08'
  | 'f' => some '\x0c'
  | 'n' => some '\n'
  | 'r' => some '\r'
  | 't' => some '\t'
  | _ => none

def unhex (c : Char) : Option Nat :=
  if '0' ≤ c ∧ c ≤ '9' then some (c.toNat - '0'.toNat)
  else if 'a' ≤ c ∧ c ≤ 'f' then some (c.toNat - 'a'.toNat + 10)
  else if 'A' ≤ c ∧ c ≤ 'F' then some (c.toNat - 'A'.toNat + 10)
  else none

/-- `getu4`: the code unit of the four hex digits of a `\u` escape. -/
def getu4 (a b c d : Char) : Option Nat := do
  pure ((← unhex a) * 4096 + (← unhex b) * 256 + (← unhex c) * 16 + (← unhex d))

/-- `utf16.IsSurrogate`. -/
def isSurrogate (r : Nat) : Bool := 0xD800 ≤ r && r < 0xE000

/-- `unicode.ReplacementChar`, U+FFFD. -/
def replacementChar : Char := '�'

/-- What a `\u` escape adds after the high surrogate `high` still waiting for its pair, if any:
the characters, and the high surrogate left waiting. A high surrogate waits for the next
escape, a pair decodes to one character (`utf16.DecodeRune`), and a surrogate without its pair
is U+FFFD. -/
def decodeUnit (high : Option Nat) (r : Nat) : List Char × Option Nat :=
  match high with
  | some hi =>
    if 0xDC00 ≤ r ∧ r < 0xE000 then ([Char.ofNat ((hi - 0xD800) * 0x400 + (r - 0xDC00) + 0x10000)], none)
    else (replacementChar :: (single r).1, (single r).2)
  | none => single r
where
  single (r : Nat) : List Char × Option Nat :=
    if 0xD800 ≤ r ∧ r < 0xDC00 then ([], some r)
    else if isSurrogate r then ([replacementChar], none)
    else ([Char.ofNat r], none)

/-- The decoded characters so far (in reverse), with a high surrogate left unpaired. -/
def unpaired (high : Option Nat) (acc : List Char) : List Char :=
  if high.isSome then replacementChar :: acc else acc

/-- A string after its opening quote, decoded as `unquote` decodes it, and the input after the
closing quote; none where the scanner refuses it (a control character, an unknown escape, an
unterminated string). `acc` holds the characters decoded so far, in reverse. -/
def parseString : Option Nat → List Char → List Char → Option (List Char × List Char)
  | high, acc, '"' :: rest => some ((unpaired high acc).reverse, rest)
  | high, acc, '\\' :: 'u' :: a :: b :: c :: d :: rest =>
    match getu4 a b c d with
    | some r => parseString (decodeUnit high r).2 ((decodeUnit high r).1.reverse ++ acc) rest
    | none => none
  | high, acc, '\\' :: c :: rest =>
    match escape c with
    | some e => parseString none (e :: unpaired high acc) rest
    | none => none
  | high, acc, c :: rest => if c.toNat < 0x20 then none else parseString none (c :: unpaired high acc) rest
  | _, _, [] => none

/-- One or more digits, and the input after them. -/
def digits (cs : List Char) : Option (List Char × List Char) :=
  match cs.span Char.isDigit with
  | ([], _) => none
  | split => some split

/-- `0` or a digit run not starting with `0`. -/
def parseInteger : List Char → Option (List Char × List Char)
  | '0' :: cs => some (['0'], cs)
  | cs => digits cs

def parseFraction : List Char → Option (List Char × List Char)
  | '.' :: cs => (digits cs).map fun (ds, rest) => ('.' :: ds, rest)
  | cs => some ([], cs)

def parseExponent : List Char → Option (List Char × List Char)
  | e :: cs =>
    if e = 'e' ∨ e = 'E' then
      match cs with
      | s :: ds =>
        if s = '+' ∨ s = '-' then (digits ds).map fun (ds, rest) => (e :: s :: ds, rest)
        else (digits cs).map fun (ds, rest) => (e :: ds, rest)
      | [] => none
    else some ([], e :: cs)
  | [] => some ([], [])

def parseUnsigned (cs : List Char) : Option (List Char × List Char) := do
  let (whole, cs) ← parseInteger cs
  let (fraction, cs) ← parseFraction cs
  let (exponent, cs) ← parseExponent cs
  pure (whole ++ fraction ++ exponent, cs)

/-- A number's literal text, `-? (0 | [1-9][0-9]*) (.[0-9]+)? ([eE][+-]?[0-9]+)?`, and the
input after it. -/
def parseNumber : List Char → Option (List Char × List Char)
  | '-' :: cs => (parseUnsigned cs).map fun (n, rest) => ('-' :: n, rest)
  | cs => parseUnsigned cs

mutual

/-- One value after any leading space, and the input after it. Every call takes one unit of
`fuel`; `parseJson` gives enough for its whole input. -/
def parseValue : Nat → List Char → Option (Json × List Char)
  | 0, _ => none
  | fuel + 1, cs =>
    match cs.dropWhile isSpace with
    | 'n' :: 'u' :: 'l' :: 'l' :: rest => some (.null, rest)
    | 't' :: 'r' :: 'u' :: 'e' :: rest => some (.bool true, rest)
    | 'f' :: 'a' :: 'l' :: 's' :: 'e' :: rest => some (.bool false, rest)
    | '"' :: rest => (parseString none [] rest).map fun (s, rest) => (.string (String.mk s), rest)
    | '[' :: rest =>
      match rest.dropWhile isSpace with
      | ']' :: rest => some (.array [], rest)
      | rest => parseElements fuel [] rest
    | '{' :: rest =>
      match rest.dropWhile isSpace with
      | '}' :: rest => some (.object [], rest)
      | rest => parseMembers fuel [] rest
    | cs => (parseNumber cs).map fun (n, rest) => (.number (String.mk n), rest)

/-- The elements of an array from its next one on, each followed by `,` or the closing `]`;
`elements` holds those read so far, in reverse. -/
def parseElements : Nat → List Json → List Char → Option (Json × List Char)
  | 0, _, _ => none
  | fuel + 1, elements, cs =>
    match parseValue fuel cs with
    | none => none
    | some (v, rest) =>
      match rest.dropWhile isSpace with
      | ',' :: rest => parseElements fuel (v :: elements) rest
      | ']' :: rest => some (.array (v :: elements).reverse, rest)
      | _ => none

/-- The members of an object from its next one on, each followed by `,` or the closing `}`.
A key read again replaces the value read before, as decoding into a Go map does. -/
def parseMembers : Nat → List (String × Json) → List Char → Option (Json × List Char)
  | 0, _, _ => none
  | fuel + 1, members, cs =>
    match cs.dropWhile isSpace with
    | '"' :: rest =>
      match parseString none [] rest with
      | none => none
      | some (name, rest) =>
        match rest.dropWhile isSpace with
        | ':' :: rest =>
          match parseValue fuel rest with
          | none => none
          | some (v, rest) =>
            match rest.dropWhile isSpace with
            | ',' :: rest => parseMembers fuel (mapSet members (String.mk name) v) rest
            | '}' :: rest => some (.object (mapSet members (String.mk name) v), rest)
            | _ => none
        | _ => none
    | _ => none

end

/-! ### Fuel

Each call of `parseValue` takes one unit of fuel, and each unit past the first takes an array's
or an object's element, which reads at least two characters: twice the input's length is
enough, and any more changes nothing. -/

theorem length_dropWhile_le (cs : List Char) : (cs.dropWhile isSpace).length ≤ cs.length :=
  (List.dropWhile_suffix isSpace).length_le

theorem parseString_shorter {high : Option Nat} {acc cs s rest : List Char}
    (parsed : parseString high acc cs = some (s, rest)) : rest.length < cs.length := by
  induction high, acc, cs using parseString.induct with
  | case2 high acc a b c d after r unit ih =>
    simp only [parseString, unit] at parsed
    have := ih parsed
    simp only [List.length_cons]; omega
  | case4 high acc c after notUnit e escaped ih =>
    rw [parseString.eq_3 _ _ _ _ notUnit, escaped] at parsed
    have := ih parsed
    simp only [List.length_cons]; omega
  | case7 high acc c after notQuote notUnit notEscape printable ih =>
    rw [parseString.eq_4 _ _ _ _ notQuote notUnit notEscape, if_neg printable] at parsed
    have := ih parsed
    simp only [List.length_cons]; omega
  | _ => simp_all [parseString]

theorem digits_shorter {cs ds rest : List Char} (parsed : digits cs = some (ds, rest)) :
    rest.length < cs.length := by
  have whole := congrArg List.length (List.takeWhile_append_dropWhile Char.isDigit cs)
  rw [digits, List.span_eq_take_drop] at parsed
  cases taken : cs.takeWhile Char.isDigit with
  | nil => simp [taken] at parsed
  | cons d ds' =>
    simp only [taken, Option.some.injEq, Prod.mk.injEq] at parsed
    simp only [taken, parsed.2, List.length_append, List.length_cons] at whole
    omega

/-- A digit run with something put in front of it leaves the same input after it. -/
theorem digits_map_shorter {cs ds rest : List Char} {f : List Char × List Char → List Char × List Char}
    (parsed : (digits cs).map f = some (ds, rest)) (keeps : ∀ read, (f read).2 = read.2) :
    rest.length < cs.length := by
  obtain ⟨read, found, same⟩ := Option.map_eq_some'.mp parsed
  have kept := keeps read
  rw [same] at kept
  rw [show rest = read.2 from kept]
  exact digits_shorter found

theorem parseInteger_shorter {cs ds rest : List Char} (parsed : parseInteger cs = some (ds, rest)) :
    rest.length < cs.length := by
  unfold parseInteger at parsed
  split at parsed
  · cases parsed; simp
  · exact digits_shorter parsed

theorem parseFraction_le {cs ds rest : List Char} (parsed : parseFraction cs = some (ds, rest)) :
    rest.length ≤ cs.length := by
  unfold parseFraction at parsed
  split at parsed
  · have := digits_map_shorter parsed fun _ => rfl
    simp only [List.length_cons]; omega
  · cases parsed; rfl

theorem parseExponent_le {cs ds rest : List Char} (parsed : parseExponent cs = some (ds, rest)) :
    rest.length ≤ cs.length := by
  unfold parseExponent at parsed
  split at parsed
  · split at parsed
    · split at parsed
      · split at parsed
        · have := digits_map_shorter parsed fun _ => rfl
          simp only [List.length_cons]; omega
        · have := digits_map_shorter parsed fun _ => rfl
          simp only [List.length_cons] at this ⊢; omega
      · contradiction
    · cases parsed; rfl
  · cases parsed; rfl

theorem parseUnsigned_shorter {cs n rest : List Char} (parsed : parseUnsigned cs = some (n, rest)) :
    rest.length < cs.length := by
  simp only [parseUnsigned, Option.bind_eq_bind, Option.bind_eq_some] at parsed
  obtain ⟨_, whole, _, fraction, _, exponent, done⟩ := parsed
  cases done
  have := parseInteger_shorter whole
  have := parseFraction_le fraction
  have := parseExponent_le exponent
  omega

theorem parseNumber_shorter {cs n rest : List Char} (parsed : parseNumber cs = some (n, rest)) :
    rest.length < cs.length := by
  unfold parseNumber at parsed
  split at parsed
  · obtain ⟨_, read, same⟩ := Option.map_eq_some'.mp parsed
    cases same
    have := parseUnsigned_shorter read
    simp only [List.length_cons]; omega
  · exact parseUnsigned_shorter parsed

/-- The input after a character that follows the leading space. -/
theorem length_lt_of_dropWhile {cs rest : List Char} {c : Char} (read : cs.dropWhile isSpace = c :: rest) :
    rest.length < cs.length := by
  have := length_dropWhile_le cs
  rw [read, List.length_cons] at this
  omega

/-- What follows a value, an array's elements or an object's members is shorter than the input
they were read from. -/
theorem parse_shorter (fuel : Nat) :
    (∀ {cs v rest}, parseValue fuel cs = some (v, rest) → rest.length < cs.length) ∧
    (∀ {elements cs v rest}, parseElements fuel elements cs = some (v, rest) → rest.length < cs.length) ∧
    (∀ {members cs v rest}, parseMembers fuel members cs = some (v, rest) → rest.length < cs.length) := by
  induction fuel with
  | zero => simp [parseValue, parseElements, parseMembers]
  | succ fuel ih =>
    obtain ⟨value, elements, members⟩ := ih
    refine ⟨fun {cs v rest} parsed => ?_, fun {_ cs v rest} parsed => ?_, fun {_ cs v rest} parsed => ?_⟩
    · rw [parseValue] at parsed
      split at parsed
      case h_1 _ after read | h_2 _ after read | h_3 _ after read =>
        cases parsed
        have := length_lt_of_dropWhile read
        simp only [List.length_cons] at this; omega
      case h_4 _ after read =>
        obtain ⟨_, found, same⟩ := Option.map_eq_some'.mp parsed
        cases same
        exact (parseString_shorter found).trans (length_lt_of_dropWhile read)
      case h_5 _ after read | h_6 _ after read =>
        have opened := length_lt_of_dropWhile read
        split at parsed
        next after' closed =>
          cases parsed
          exact (length_lt_of_dropWhile closed).trans opened
        next =>
          refine Nat.lt_of_lt_of_le ?_ ((length_dropWhile_le after).trans opened.le)
          first | exact elements parsed | exact members parsed
      case h_7 =>
        obtain ⟨_, found, same⟩ := Option.map_eq_some'.mp parsed
        cases same
        exact (parseNumber_shorter found).trans_le (length_dropWhile_le cs)
    · simp only [parseElements] at parsed
      split at parsed
      · contradiction
      next v' after read =>
        have := value read
        split at parsed
        next after' comma =>
          have := length_lt_of_dropWhile comma
          have := elements parsed; omega
        next after' closed =>
          cases parsed
          exact (length_lt_of_dropWhile closed).trans this
        · contradiction
    · simp only [parseMembers] at parsed
      split at parsed
      next after quote =>
        have := length_lt_of_dropWhile quote
        split at parsed
        · contradiction
        next name after₁ named =>
          have := parseString_shorter named
          split at parsed
          next after₂ colon =>
            have := length_lt_of_dropWhile colon
            split at parsed
            · contradiction
            next v' after₃ read =>
              have := value read
              split at parsed
              next after₄ comma =>
                have := length_lt_of_dropWhile comma
                have := members parsed; omega
              next after₄ closed =>
                cases parsed
                have := length_lt_of_dropWhile closed; omega
              · contradiction
          · contradiction
      · contradiction

/-- Past twice the input's length, one more unit of fuel changes nothing. -/
theorem parse_fuel_stable (fuel : Nat) :
    (∀ cs, 2 * cs.length < fuel → parseValue (fuel + 1) cs = parseValue fuel cs) ∧
    (∀ elements cs, 2 * cs.length + 1 < fuel →
      parseElements (fuel + 1) elements cs = parseElements fuel elements cs) ∧
    (∀ members cs, 2 * cs.length + 1 < fuel →
      parseMembers (fuel + 1) members cs = parseMembers fuel members cs) := by
  induction fuel with
  | zero => simp
  | succ fuel ih =>
    obtain ⟨value, elements, members⟩ := ih
    refine ⟨fun cs enough => ?_, fun _ cs enough => ?_, fun _ cs enough => ?_⟩
    · simp only [parseValue]
      split
      case h_5 _ after read | h_6 _ after read =>
        have := length_lt_of_dropWhile read
        have := length_dropWhile_le after
        split
        · rfl
        · first | exact elements _ _ (by omega) | exact members _ _ (by omega)
      all_goals rfl
    · simp only [parseElements]
      rw [value cs (by omega)]
      split
      · rfl
      next v after read =>
        have := (parse_shorter fuel).1 read
        split
        next after' comma =>
          have := length_lt_of_dropWhile comma
          exact elements _ _ (by omega)
        all_goals rfl
    · simp only [parseMembers]
      split
      next after quote =>
        have := length_lt_of_dropWhile quote
        split
        · rfl
        next name after₁ named =>
          have := parseString_shorter named
          split
          next after₂ colon =>
            have := length_lt_of_dropWhile colon
            rw [value after₂ (by omega)]
            split
            · rfl
            next v after₃ read =>
              have := (parse_shorter fuel).1 read
              split
              next after₄ comma =>
                have := length_lt_of_dropWhile comma
                exact members _ _ (by omega)
              all_goals rfl
          · rfl
      · rfl

/-- Any fuel past twice the input's length gives the same answer. -/
theorem parseValue_fuel_enough {cs : List Char} {fuel : Nat} (enough : 2 * cs.length < fuel)
    (more : Nat) : parseValue (fuel + more) cs = parseValue fuel cs := by
  induction more with
  | zero => rfl
  | succ more ih => rw [← Nat.add_assoc, (parse_fuel_stable _).1 cs (by omega), ih]

end Json

/-- The value the bytes `s` hold, if they are one JSON value with only space around it, as
encoding/json's `checkValid` requires; none otherwise. -/
def parseJson (s : String) : Option Json :=
  match Json.parseValue (2 * s.length + 1) s.toList with
  | some (v, rest) => if rest.all Json.isSpace then some v else none
  | none => none

/-- `parseJson`'s fuel is enough: with more, the decoder answers the same. -/
theorem parseJson_fuel (s : String) (more : Nat) :
    parseJson s = match Json.parseValue (2 * s.length + 1 + more) s.toList with
      | some (v, rest) => if rest.all Json.isSpace then some v else none
      | none => none := by
  have enough : 2 * s.toList.length < 2 * s.length + 1 := Nat.lt_succ_self _
  rw [parseJson, Json.parseValue_fuel_enough enough more]

example : parseJson "\x7b\"a\": [1, 2.5e3, true, null], \"b\": \"x\\u00e9\"\x7d" =
    some (.object [("a", .array [.number "1", .number "2.5e3", .bool true, .null]), ("b", .string "xé")]) := by
  decide

example : parseJson "\"\\ud83d\\ude00\\ud83d\"" = some (.string "😀�") := by decide

example : parseJson "\x7b\"a\": 1,\x7d" = none ∧ parseJson "01" = none ∧ parseJson "" = none := by decide

namespace Json

/-! ## Merge patches -/

/-- The members of an object; any other value counts as the empty object. -/
def members : Json → List (String × Json)
  | .object members => members
  | _ => []

mutual

/-- RFC 7386 `MergePatch(target, patch)`: an object patch is merged into the target's members
(a target that is not an object counts as `{}`); any other patch replaces the target. -/
def mergePatch : Json → Json → Json
  | target, .object patch => .object (mergeMembers target.members patch)
  | _, patch => patch

/-- Each member of an object patch in turn: null removes the name from the target, any other
value is merged into the target's value under it (or into nothing, when the name is new). -/
def mergeMembers : List (String × Json) → List (String × Json) → List (String × Json)
  | target, [] => target
  | target, (name, .null) :: rest => mergeMembers (target.filter (·.1 != name)) rest
  | target, (name, value) :: rest =>
    mergeMembers (mapSet target name (mergePatch ((target.lookup name).getD .null) value)) rest

end

example : mergePatch (.object [("x", .number "1")]) (.object [("a", .number "1")]) =
    .object [("x", .number "1"), ("a", .number "1")] := by decide

example : mergePatch (.object [("x", .number "1"), ("y", .bool true)]) (.object [("x", .null)]) =
    .object [("y", .bool true)] := by decide

end Json

end PackageOperator.Api
