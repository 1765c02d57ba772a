import PodNet.Json.Document
import PodNet.Proofs.Json.Numbers

/-!
# Documents that are written are read back

A value is written in compact or in pretty form, and either way it comes out as the same tokens: the
forms differ in the blanks between them. `Cuts` says that written characters are cut into tokens
wherever they stand, and `CutsBefore` that they are before a delimiter, which a number needs after it.
Assembling these tokens gives the document of the value (`assemble_tokensOf`). So reading undoes
writing (`read?_compact`, `read?_pretty`), for values whose numbers are all integers.
-/

namespace PodNet.Json

open Bytes (ofChars)

mutual

/-- All numbers in the value are integers of 64 bits. -/
def Exact : Json → Prop
  | null => True
  | bool _ => True
  | num n => n.Exact
  | str _ => True
  | arr items => ExactItems items
  | obj members => ExactMembers members

/-- All numbers in the items are integers. -/
def ExactItems : List Json → Prop
  | [] => True
  | v :: l => Exact v ∧ ExactItems l

/-- All numbers in the members are integers. -/
def ExactMembers : List (String × Json) → Prop
  | [] => True
  | (_, v) :: l => Exact v ∧ ExactMembers l

end

mutual

/-- The tokens of a value. -/
def tokensOf : Json → List Token
  | null => [.null]
  | bool b => [.bool b]
  | num n => [.num (some n)]
  | str s => [.str (some s)]
  | arr items => .openArray :: (itemTokens items ++ [.closeArray])
  | obj members => .openObject :: (memberTokens members ++ [.closeObject])

/-- The tokens of items, with commas between them. -/
def itemTokens : List Json → List Token
  | [] => []
  | [v] => tokensOf v
  | v :: w :: l => tokensOf v ++ .comma :: itemTokens (w :: l)

/-- The tokens of members, with commas between them. -/
def memberTokens : List (String × Json) → List Token
  | [] => []
  | [(k, v)] => .str (some k) :: .colon :: tokensOf v
  | (k, v) :: m :: l =>
    .str (some k) :: .colon :: (tokensOf v ++ .comma :: memberTokens (m :: l))

end

variable {done : List Token} {rest after : Bytes} {b : UInt8} {t : Token}

/-! ### Cutting -/

theorem tokensOnto_space (h : isSpace b = true) :
    tokensOnto done (b :: rest) = tokensOnto done rest := by
  rw [tokensOnto, if_pos h]

theorem tokensOnto_token (hspace : isSpace b = false) (h : readToken b rest = some (t, after)) :
    tokensOnto done (b :: rest) = tokensOnto (t :: done) after := by
  rw [tokensOnto, hspace, if_neg Bool.false_ne_true]
  split
  · rename_i hnone
    rw [h] at hnone
    cases hnone
  · rename_i hsome
    rw [h] at hsome
    cases hsome
    rfl

/-- **Written characters are cut into tokens**, wherever they stand. -/
def Cuts (written : List Char) (tokens : List Token) : Prop :=
  ∀ done rest, tokensOnto done (ofChars written ++ rest) = tokensOnto (tokens.reverse ++ done) rest

/-- **Written characters are cut into tokens before a delimiter.** -/
def CutsBefore (written : List Char) (tokens : List Token) : Prop :=
  ∀ done rest, Delimited rest →
    tokensOnto done (ofChars written ++ rest) = tokensOnto (tokens.reverse ++ done) rest

variable {s s' : List Char} {ts ts' : List Token}

namespace Cuts

theorem nil : Cuts [] [] := fun _ _ => rfl

theorem before (h : Cuts s ts) : CutsBefore s ts := fun done rest _ => h done rest

theorem append (h : Cuts s ts) (h' : Cuts s' ts') : Cuts (s ++ s') (ts ++ ts') := by
  intro done rest
  rw [Bytes.ofChars_append, List.append_assoc, h, h', List.reverse_append, List.append_assoc]

theorem append_before (h : Cuts s ts) (h' : CutsBefore s' ts') :
    CutsBefore (s ++ s') (ts ++ ts') := by
  intro done rest hrest
  rw [Bytes.ofChars_append, List.append_assoc, h, h' _ _ hrest, List.reverse_append,
    List.append_assoc]

/-- A punctuation character. -/
theorem mark {c : Char} (hc : ofChars [c] = [b]) (hspace : isSpace b = false)
    (ht : punctuation b = some t) : Cuts [c] [t] := by
  intro done rest
  have hread : readToken b rest = some (t, rest) := by rw [readToken, ht]
  rw [hc, List.singleton_append, tokensOnto_token hspace hread]
  rfl

/-- A blank is no token. -/
theorem blank {c : Char} (hc : ofChars [c] = [b]) (hspace : isSpace b = true) : Cuts [c] [] := by
  intro done rest
  rw [hc, List.singleton_append, tokensOnto_space hspace]
  rfl

theorem space : Cuts [' '] [] := blank rfl rfl

theorem newline (level : Nat) : Cuts (newline level) [] := by
  have hblanks : ∀ n, Cuts (List.replicate n ' ') [] := by
    intro n
    induction n with
    | zero => exact nil
    | succ n ih => exact space.append ih
  exact append (s := ['\n']) (blank rfl rfl) (hblanks _)

theorem string (s : String) : Cuts (stringChars s) [.str (some s)] := by
  intro done rest
  obtain ⟨written, hcons, hread⟩ := readToken_string s
  rw [hcons, List.cons_append, tokensOnto_token (by rfl) (hread rest)]
  rfl

theorem null : Cuts ['n', 'u', 'l', 'l'] [.null] := fun _ _ => tokensOnto_token (by rfl) (by rfl)

theorem bool (b : Bool) : Cuts (compactChars (.bool b)) [.bool b] := by
  cases b
  · exact fun _ _ => tokensOnto_token (by rfl) (by rfl)
  · exact fun _ _ => tokensOnto_token (by rfl) (by rfl)

end Cuts

namespace CutsBefore

theorem number {n : Number} (h : n.Exact) : CutsBefore (numberChars n) [.num (some n)] := by
  intro done rest hrest
  obtain ⟨b, written, hcons, hspace, hread⟩ := readToken_number h
  rw [hcons, List.cons_append, tokensOnto_token hspace (hread rest hrest)]
  rfl

/-- What follows begins with a delimiter. -/
theorem append {c : Char} (h : CutsBefore s ts) (hc : c ∈ [',', ']', '\x7d', '\n'])
    (h' : CutsBefore (c :: s') ts') : CutsBefore (s ++ c :: s') (ts ++ ts') := by
  intro done rest hrest
  have hdelimited : Delimited (ofChars (c :: s') ++ rest) := by
    simp only [List.mem_cons, List.not_mem_nil, or_false] at hc
    rcases hc with rfl | rfl | rfl | rfl <;> exact delimited_cons (by decide) _
  rw [Bytes.ofChars_append, List.append_assoc, h _ _ hdelimited, h' _ _ hrest, List.reverse_append,
    List.append_assoc]

/-- Two items with a comma between them. -/
theorem comma (h : CutsBefore s ts) (h' : CutsBefore s' ts') :
    CutsBefore (s ++ ',' :: s') (ts ++ .comma :: ts') :=
  h.append (by decide) ((Cuts.mark (by rfl) (by rfl) (by rfl)).append_before h')

theorem brackets (h : CutsBefore s ts) :
    CutsBefore ('[' :: (s ++ [']'])) (.openArray :: (ts ++ [.closeArray])) :=
  (Cuts.mark (by rfl) (by rfl) (by rfl)).append_before
    (h.append (by decide) (Cuts.mark (by rfl) (by rfl) (by rfl)).before)

theorem braces (h : CutsBefore s ts) :
    CutsBefore ('\x7b' :: (s ++ ['\x7d'])) (.openObject :: (ts ++ [.closeObject])) :=
  (Cuts.mark (by rfl) (by rfl) (by rfl)).append_before
    (h.append (by decide) (Cuts.mark (by rfl) (by rfl) (by rfl)).before)

/-- A member: the key, a colon with blanks after it, and the value. -/
theorem member (k : String) (blanks : List Char) (hblanks : Cuts blanks [])
    (h : CutsBefore s ts) :
    CutsBefore (stringChars k ++ ':' :: (blanks ++ s)) (.str (some k) :: .colon :: ts) :=
  (Cuts.string k).append_before
    ((Cuts.mark (by rfl) (by rfl) (by rfl)).append_before (hblanks.append_before h))

/-- A new line may follow, which is no token. -/
theorem newline (h : CutsBefore s ts) (level : Nat) : CutsBefore (s ++ newline level) ts := by
  have hnewline := h.append (by decide) (Cuts.newline level).before
  rwa [List.append_nil] at hnewline

end CutsBefore

/-! ### Both forms are cut into the tokens of the value -/

mutual

/-- The compact form is cut into the tokens of the value. -/
theorem cuts_compactChars (v : Json) (h : v.Exact) : CutsBefore (compactChars v) (tokensOf v) := by
  match v, h with
  | .null, _ => exact Cuts.null.before
  | .bool b, _ => exact (Cuts.bool b).before
  | .num n, h => exact .number h
  | .str s, _ => exact (Cuts.string s).before
  | .arr items, h => exact (cuts_compactItems items h).brackets
  | .obj members, h => exact (cuts_compactMembers members h).braces

theorem cuts_compactItems (items : List Json) (h : ExactItems items) :
    CutsBefore (compactItems items) (itemTokens items) := by
  match items, h with
  | [], _ => exact Cuts.nil.before
  | [v], h => exact cuts_compactChars v h.1
  | v :: w :: l, h => exact (cuts_compactChars v h.1).comma (cuts_compactItems (w :: l) h.2)

theorem cuts_compactMembers (members : List (String × Json)) (h : ExactMembers members) :
    CutsBefore (compactMembers members) (memberTokens members) := by
  match members, h with
  | [], _ => exact Cuts.nil.before
  | [(k, v)], h => exact .member k [] .nil (cuts_compactChars v h.1)
  | (k, v) :: m :: l, h =>
    exact .member k [] .nil ((cuts_compactChars v h.1).comma (cuts_compactMembers (m :: l) h.2))

end

mutual

/-- The pretty form is cut into the tokens of the value. -/
theorem cuts_prettyChars (level : Nat) (v : Json) (h : v.Exact) :
    CutsBefore (prettyChars level v) (tokensOf v) := by
  match v, h with
  | .null, _ => exact Cuts.null.before
  | .bool b, _ => exact (Cuts.bool b).before
  | .num n, h => exact .number h
  | .str s, _ => exact (Cuts.string s).before
  | .arr [], _ => exact Cuts.nil.before.brackets
  | .arr (v :: l), h => exact ((cuts_prettyItems (level + 1) (v :: l) h).newline level).brackets
  | .obj [], _ => exact Cuts.nil.before.braces
  | .obj (m :: l), h => exact ((cuts_prettyMembers (level + 1) (m :: l) h).newline level).braces

theorem cuts_prettyItems (level : Nat) (items : List Json) (h : ExactItems items) :
    CutsBefore (prettyItems level items) (itemTokens items) := by
  match items, h with
  | [], _ => exact Cuts.nil.before
  | [v], h => exact (Cuts.newline level).append_before (cuts_prettyChars level v h.1)
  | v :: w :: l, h =>
    have hfirst := (Cuts.newline level).append_before (cuts_prettyChars level v h.1)
    exact hfirst.comma (cuts_prettyItems level (w :: l) h.2)

theorem cuts_prettyMembers (level : Nat) (members : List (String × Json))
    (h : ExactMembers members) : CutsBefore (prettyMembers level members) (memberTokens members) := by
  match members, h with
  | [], _ => exact Cuts.nil.before
  | [(k, v)], h =>
    have hmember := CutsBefore.member k [' '] .space (cuts_prettyChars level v h.1)
    rw [prettyMembers, memberTokens]
    simpa using (Cuts.newline level).append_before hmember
  | (k, v) :: m :: l, h =>
    have hmember := CutsBefore.member k [' '] .space
      ((cuts_prettyChars level v h.1).comma (cuts_prettyMembers level (m :: l) h.2))
    rw [prettyMembers, memberTokens]
    simpa using (Cuts.newline level).append_before hmember

end

/-! ### The tokens of a value are assembled to its document -/

namespace Document

/-- The first token of an item is none that could end the array. -/
theorem assemble_firstItem (v : Json) (l : List Json) (more : List Token) (stack : List Frame) :
    assemble (itemTokens (v :: l) ++ more) .firstItem (.array [] :: stack) =
      assemble (itemTokens (v :: l) ++ more) .value (.array [] :: stack) := by
  cases l with
  | nil => cases v <;> rfl
  | cons w l => cases v <;> rfl

/-- The first token of a member is its key. -/
theorem assemble_firstKey (m : String × Json) (l : List (String × Json)) (more : List Token)
    (stack : List Frame) :
    assemble (memberTokens (m :: l) ++ more) .firstKey stack =
      assemble (memberTokens (m :: l) ++ more) (.key []) stack := by
  cases l <;> rfl

mutual

/-- **The tokens of a value are assembled to its document.** -/
theorem assemble_tokensOf (v : Json) (more : List Token) (stack : List Frame) :
    assemble (tokensOf v ++ more) .value stack = assemble more (.after (ofJson v)) stack := by
  match v with
  | .null => rfl
  | .bool b => rfl
  | .num n => rfl
  | .str s => rfl
  | .arr [] => rfl
  | .arr (w :: l) =>
    show assemble (itemTokens (w :: l) ++ [.closeArray] ++ more) .firstItem (.array [] :: stack) = _
    rw [List.append_assoc, assemble_firstItem]
    exact assemble_itemTokens (w :: l) (List.cons_ne_nil w l) more [] stack
  | .obj [] => rfl
  | .obj (m :: l) =>
    show assemble (memberTokens (m :: l) ++ [.closeObject] ++ more) .firstKey stack = _
    rw [List.append_assoc, assemble_firstKey]
    exact assemble_memberTokens (m :: l) (List.cons_ne_nil m l) more [] stack

/-- Items come behind those that are there already. -/
theorem assemble_itemTokens (items : List Json) (hne : items ≠ []) (more : List Token)
    (done : List Document) (stack : List Frame) :
    assemble (itemTokens items ++ .closeArray :: more) .value (.array done :: stack) =
      assemble more (.after (.arr (done.reverse ++ ofItems items))) stack := by
  match items, hne with
  | [v], _ =>
    rw [itemTokens, assemble_tokensOf v]
    show assemble more (.after (.arr (ofJson v :: done).reverse)) stack = _
    rw [List.reverse_cons]
    rfl
  | v :: w :: l, _ =>
    rw [itemTokens, List.append_assoc, assemble_tokensOf v]
    show assemble (itemTokens (w :: l) ++ .closeArray :: more) .value
      (.array (ofJson v :: done) :: stack) = _
    rw [assemble_itemTokens (w :: l) (List.cons_ne_nil w l), List.reverse_cons, List.append_assoc]
    rfl

/-- Members come behind those that are there already. -/
theorem assemble_memberTokens (members : List (String × Json)) (hne : members ≠ [])
    (more : List Token) (done : List (Option String × Document)) (stack : List Frame) :
    assemble (memberTokens members ++ .closeObject :: more) (.key done) stack =
      assemble more (.after (.obj (done.reverse ++ ofMembers members))) stack := by
  match members, hne with
  | [(k, v)], _ =>
    show assemble (tokensOf v ++ .closeObject :: more) .value (.object done (some k) :: stack) = _
    rw [assemble_tokensOf v]
    show assemble more (.after (.obj ((some k, ofJson v) :: done).reverse)) stack = _
    rw [List.reverse_cons]
    rfl
  | (k, v) :: m :: l, _ =>
    show assemble (tokensOf v ++ .comma :: memberTokens (m :: l) ++ .closeObject :: more)
      .value (.object done (some k) :: stack) = _
    rw [List.append_assoc, assemble_tokensOf v]
    show assemble (memberTokens (m :: l) ++ .closeObject :: more)
      (.key ((some k, ofJson v) :: done)) stack = _
    rw [assemble_memberTokens (m :: l) (List.cons_ne_nil m l), List.reverse_cons,
      List.append_assoc]
    rfl

end

/-- Characters that are cut into the tokens of a value write its document. -/
theorem read?_of_cutsBefore {written : List Char} {v : Json}
    (h : CutsBefore written (tokensOf v)) : read? (ofChars written) = some (ofJson v) := by
  have htokens := h [] [] delimited_nil
  rw [List.append_nil, List.append_nil, tokensOnto, List.reverse_reverse] at htokens
  have hassemble := assemble_tokensOf v [] []
  rw [List.append_nil] at hassemble
  rw [read?, tokens, htokens, Option.bind_some, ofTokens?, hassemble]
  rfl

/-- **Reading undoes writing in compact form.** -/
theorem read?_compact {v : Json} (h : v.Exact) :
    read? (Bytes.ofString v.compact) = some (ofJson v) := by
  rw [compact, Bytes.ofString_ofList]
  exact read?_of_cutsBefore (cuts_compactChars v h)

/-- A line with the compact form is read as well. -/
theorem read?_compact_line {v : Json} (h : v.Exact) :
    read? (Bytes.ofString (v.compact ++ "\n")) = some (ofJson v) := by
  have hline : v.compact ++ "\n" = String.ofList (compactChars v ++ newline 0) := by
    rw [String.ofList_append]
    rfl
  rw [hline, Bytes.ofString_ofList]
  exact read?_of_cutsBefore ((cuts_compactChars v h).newline 0)

/-- **Reading undoes writing in pretty form.** -/
theorem read?_pretty {v : Json} (h : v.Exact) :
    read? (Bytes.ofString v.pretty) = some (ofJson v) := by
  rw [pretty, Bytes.ofString_ofList]
  exact read?_of_cutsBefore (cuts_prettyChars 0 v h)

end Document

end PodNet.Json
