import StackExport.Proofs.LiteralReading
/-!
Values laid out over lines, and that they read as the literals they are meant for.

Between the parts of a list or an object stand spaces and line ends only, so the reader's answer
does not depend on the indentation.
-/
namespace StackExport.Proofs.LayoutReading

open StackExport
open StackExport.Proofs.TemplateReading
open StackExport.Proofs.Lexemes
open StackExport.Proofs.NumeralReading
open StackExport.Proofs.LiteralReading

/-! ### Values -/

/-- Pieces that read as a literal wherever a value may stand. -/
def ReadsAs (ps : List Piece) (l : Literal) : Prop :=
  ∃ ts, Lexes ps ts ∧ (∃ t ∈ ts.head?, Begins t) ∧
    ∀ fuel rest, ts.length < fuel → Delimited rest →
      readValue fuel (ts ++ rest) = some (l, rest)

theorem readsAs_expression (r : Reference) : ReadsAs [.expression r] (.expression r) := by
  refine ⟨_, lexes_expression r, ⟨_, rfl, rfl, nofun, nofun⟩, fun fuel rest hfuel _ => ?_⟩
  obtain ⟨fuel, rfl⟩ := Nat.exists_eq_succ_of_ne_zero (Nat.ne_zero_of_lt hfuel)
  rw [List.singleton_append, readValue]

theorem readsAs_quote (s : String) : ReadsAs (pieces (Text.quote s)) (.text s) := by
  refine ⟨_, lexes_quote s, ⟨_, rfl, rfl, by decide, by decide⟩, fun fuel rest hfuel _ => ?_⟩
  obtain ⟨fuel, rfl⟩ := Nat.exists_eq_succ_of_ne_zero (Nat.ne_zero_of_lt hfuel)
  rw [List.cons_append, readValue, takeText_texts]
  rfl

/-- The characters of a word begin nothing. -/
theorem lexes_word {s : String} (h : s.toList.all IsWord = true) :
    Lexes (pieces s) (code s.toList) := by
  refine lexes_bare fun c hc => bare_of_isNameRest ?_
  have hword := List.all_eq_true.mp h c hc
  unfold IsWord at hword
  rcases Bool.or_eq_true_iff.mp hword with hname | hpoint
  · exact .inl hname
  · exact .inr (beq_iff_eq.mp hpoint)

theorem exists_begins_word {s : String} (hne : s.toList ≠ []) (h : s.toList.all IsWord = true) :
    ∃ t ∈ (code s.toList).head?, Begins t := by
  obtain ⟨c, cs, hcs⟩ := List.exists_cons_of_ne_nil hne
  rw [hcs] at h ⊢
  exact ⟨_, rfl, begins_of_isWord (List.all_eq_true.mp h c List.mem_cons_self)⟩

theorem readsAs_word {s : String} (hne : s.toList ≠ []) (hword : s.toList.all IsWord = true)
    (hcall : s ≠ "jsonencode") : ReadsAs (pieces s) (ofWord s.toList) := by
  refine ⟨_, lexes_word hword, exists_begins_word hne hword, fun fuel rest hfuel hrest => ?_⟩
  obtain ⟨fuel, rfl⟩ := Nat.exists_eq_succ_of_ne_zero (Nat.ne_zero_of_lt hfuel)
  rw [readValue_of_word hne hword hrest, String.ofList_toList, if_neg hcall]

theorem delimited_code {c : Char} (h : IsWord c = false) (rest : List Token) :
    Delimited (.lexeme (.code c) :: rest) := by
  rintro t ht
  cases ht
  exact h

theorem lexes_char {c : Char} (h : Bare c) : Lexes [.char c] [.lexeme (.code c)] :=
  lexes_chars fun outer => lexFrom_bare (List.forall_mem_singleton.mpr h) outer

theorem readsAs_call {ps : List Piece} {l : Literal} (h : ReadsAs ps l) :
    ReadsAs (pieces "jsonencode" ++ .char '(' :: (ps ++ [.char ')'])) (.encoded l) := by
  obtain ⟨ts, hlexes, -, hread⟩ := h
  have hword : "jsonencode".toList.all IsWord = true := by decide
  have htokens := (lexes_word hword).append
    ((lexes_char (c := '(') (by decide)).append (hlexes.append (lexes_char (c := ')') (by decide))))
  refine ⟨_, htokens, ⟨_, rfl, begins_of_isWord (by decide)⟩, fun fuel rest hfuel _ => ?_⟩
  simp only [List.length_append, List.length_singleton] at hfuel
  obtain ⟨fuel, rfl⟩ : ∃ n, fuel = n + 2 := ⟨fuel - 2, by omega⟩
  have hinner := hread fuel _ (by omega) (delimited_code (c := ')') (by decide) rest)
  simp only [List.append_assoc, List.cons_append, List.nil_append]
  rw [readValue_of_word (by decide) hword (delimited_code (by decide) _),
    if_pos String.ofList_toList, readArgument, hinner]
  rfl

/-! ### Lists and objects -/

def IsSpaces (s : String) : Prop := ∀ c ∈ s.toList, c = ' ' ∨ c = '\n'

theorem isSpaces_empty : IsSpaces "" := nofun

theorem isSpaces_line : IsSpaces "\n" := fun _ hc => .inr (List.mem_singleton.mp hc)

theorem lexes_spaces {s : String} (h : IsSpaces s) : Lexes (pieces s) (code s.toList) := by
  refine lexes_bare fun c hc => ?_
  rcases h c hc with rfl | rfl <;> decide

theorem isSpaces_append {s s' : String} (h : IsSpaces s) (h' : IsSpaces s') :
    IsSpaces (s ++ s') := by
  intro c hc
  rw [String.toList_append, List.mem_append] at hc
  exact hc.elim (h c) (h' c)

theorem dropWhile_spaces {s : String} (h : IsSpaces s) {t : Token} (ht : t.isSpace = false)
    (rest : List Token) :
    (code s.toList ++ t :: rest).dropWhile Token.isSpace = t :: rest := by
  have hall : ∀ t ∈ code s.toList, t.isSpace = true := by
    intro t ht
    obtain ⟨c, hc, rfl⟩ := List.mem_map.mp ht
    rcases h c hc with rfl | rfl <;> rfl
  rw [List.dropWhile_append_of_pos hall, List.dropWhile_cons_of_neg (by simp [ht])]

theorem delimited_spaces {s : String} (h : IsSpaces s) {c : Char} (hc : IsWord c = false)
    (rest : List Token) : Delimited (code s.toList ++ .lexeme (.code c) :: rest) := by
  unfold IsSpaces at h
  generalize s.toList = cs at h
  cases cs with
  | nil => exact delimited_code hc rest
  | cons d cs =>
      refine delimited_code ?_ _
      rcases h d List.mem_cons_self with rfl | rfl <;> decide

/-- Pieces that read as the items of a list, between spaces. -/
def ItemsReadAs (ps : List Piece) (ls : List Literal) : Prop :=
  ∃ ts, Lexes ps ts ∧ ∀ fuel lead close rest, IsSpaces lead → IsSpaces close →
    ts.length + 1 < fuel → readItems fuel
        (code lead.toList ++ (ts ++ (code close.toList ++ .lexeme (.code ']') :: rest))) =
      some (ls, rest)

theorem code_toList_append (s s' : String) (rest : List Token) :
    code s.toList ++ (code s'.toList ++ rest) = code (s ++ s').toList ++ rest := by
  rw [String.toList_append, code_append, List.append_assoc]

theorem itemsReadAs_nil : ItemsReadAs [] [] := by
  refine ⟨[], lexes_nil, fun fuel lead close rest hlead hclose hfuel => ?_⟩
  obtain ⟨fuel, rfl⟩ := Nat.exists_eq_succ_of_ne_zero (Nat.ne_zero_of_lt hfuel)
  rw [List.nil_append, code_toList_append, readItems,
    dropWhile_spaces (isSpaces_append hlead hclose) rfl]
  rfl

theorem itemsReadAs_cons {indent gap : String} {ps ps' : List Piece} {l : Literal}
    {ls : List Literal} (hindent : IsSpaces indent) (hgap : IsSpaces gap) (h : ReadsAs ps l)
    (hrest : ItemsReadAs ps' ls) :
    ItemsReadAs (pieces indent ++ (ps ++ (.char ',' :: (pieces gap ++ ps')))) (l :: ls) := by
  obtain ⟨ts, hlexes, ⟨t, ht, hbegins⟩, hread⟩ := h
  obtain ⟨ts', hlexes', hread'⟩ := hrest
  have htokens := (lexes_spaces hindent).append (hlexes.append
    ((lexes_char (c := ',') (by decide)).append ((lexes_spaces hgap).append hlexes')))
  refine ⟨_, htokens, fun fuel lead close rest hlead hclose hfuel => ?_⟩
  simp only [List.length_append, List.length_singleton] at hfuel
  obtain ⟨fuel, rfl⟩ : ∃ n, fuel = n + 1 := ⟨fuel - 1, by omega⟩
  have hitem := hread fuel _ (by omega) (delimited_code (c := ',') (by decide)
    (code gap.toList ++ (ts' ++ (code close.toList ++ .lexeme (.code ']') :: rest))))
  have hitems := hread' fuel gap close rest hgap hclose (by omega)
  obtain ⟨ts, rfl⟩ := List.head?_eq_some_iff.mp ht
  have hdrop := dropWhile_spaces (isSpaces_append hlead hindent) hbegins.1 (ts ++
    .lexeme (.code ',') :: (code gap.toList ++
      (ts' ++ (code close.toList ++ .lexeme (.code ']') :: rest))))
  simp only [List.append_assoc, List.cons_append, List.nil_append] at hdrop hitem ⊢
  rw [code_toList_append, readItems, hdrop]
  split
  · next heq =>
      cases heq
      exact absurd rfl hbegins.2.1
  · rw [hitem]
    change (readItems fuel _).map _ = _
    rw [hitems]
    rfl

/-- The last item of a list needs no comma. -/
theorem itemsReadAs_last {ps : List Piece} {l : Literal} (h : ReadsAs ps l) :
    ItemsReadAs ps [l] := by
  obtain ⟨ts, hlexes, ⟨t, ht, hbegins⟩, hread⟩ := h
  refine ⟨ts, hlexes, fun fuel lead close rest hlead hclose hfuel => ?_⟩
  obtain ⟨fuel, rfl⟩ := Nat.exists_eq_succ_of_ne_zero (Nat.ne_zero_of_lt hfuel)
  have hitem := hread fuel _ (by omega) (delimited_spaces hclose (c := ']') (by decide) rest)
  obtain ⟨ts, rfl⟩ := List.head?_eq_some_iff.mp ht
  have hdrop := dropWhile_spaces hlead hbegins.1
    (ts ++ (code close.toList ++ .lexeme (.code ']') :: rest))
  have hclosing := dropWhile_spaces hclose (t := .lexeme (.code ']')) rfl rest
  simp only [List.cons_append] at hdrop hitem ⊢
  rw [readItems, hdrop]
  split
  · next heq =>
      cases heq
      exact absurd rfl hbegins.2.1
  · rw [hitem]
    dsimp only
    rw [hclosing]
    rfl

theorem readsAs_list {lead close : String} {ps : List Piece} {ls : List Literal}
    (hlead : IsSpaces lead) (hclose : IsSpaces close) (h : ItemsReadAs ps ls) :
    ReadsAs (.char '[' :: (pieces lead ++ (ps ++ (pieces close ++ [.char ']'])))) (.list ls) := by
  obtain ⟨ts, hlexes, hread⟩ := h
  have htokens := (lexes_char (c := '[') (by decide)).append ((lexes_spaces hlead).append
    (hlexes.append ((lexes_spaces hclose).append (lexes_char (c := ']') (by decide)))))
  refine ⟨_, htokens, ⟨_, rfl, rfl, by decide, by decide⟩, fun fuel rest hfuel _ => ?_⟩
  simp only [List.length_append, List.length_singleton] at hfuel
  obtain ⟨fuel, rfl⟩ : ∃ n, fuel = n + 1 := ⟨fuel - 1, by omega⟩
  have hitems := hread fuel lead close rest hlead hclose (by omega)
  simp only [List.append_assoc, List.cons_append, List.nil_append]
  rw [readValue, hitems]
  rfl

/-- Pieces that read as the entries of an object, between spaces. -/
def EntriesReadAs (ps : List Piece) (entries : List (String × Literal)) : Prop :=
  ∃ ts, Lexes ps ts ∧ ∀ fuel lead close rest, IsSpaces lead → IsSpaces close → ts.length < fuel →
    readEntries fuel
        (code lead.toList ++ (ts ++ (code close.toList ++ .lexeme (.code '\x7d') :: rest))) =
      some (entries, rest)

theorem entriesReadAs_nil : EntriesReadAs [] [] := by
  refine ⟨[], lexes_nil, fun fuel lead close rest hlead hclose hfuel => ?_⟩
  obtain ⟨fuel, rfl⟩ := Nat.exists_eq_succ_of_ne_zero (Nat.ne_zero_of_lt hfuel)
  rw [List.nil_append, code_toList_append, readEntries,
    dropWhile_spaces (isSpaces_append hlead hclose) rfl]
  rfl

theorem takeEquals_blank {t : Token} (ht : t.isBlank = false) (rest : List Token) :
    takeEquals? (code [' ', '=', ' '] ++ t :: rest) = some (t :: rest) := by
  have hdrop : (code [' ', '=', ' '] ++ t :: rest).dropWhile Token.isBlank =
      .lexeme (.code '=') :: .lexeme (.code ' ') :: t :: rest := rfl
  have hdrop' : (.lexeme (.code ' ') :: t :: rest).dropWhile Token.isBlank = t :: rest := by
    rw [List.dropWhile_cons_of_pos rfl, List.dropWhile_cons_of_neg (by simp [ht])]
  rw [takeEquals?, hdrop]
  change some (List.dropWhile _ _) = _
  rw [hdrop']

theorem lexes_equals : Lexes (pieces " = ") (code [' ', '=', ' ']) := by
  refine lexes_bare (s := " = ") fun c hc => ?_
  have hc : c ∈ [' ', '=', ' '] := hc
  simp only [List.mem_cons, List.not_mem_nil, or_false] at hc
  rcases hc with rfl | rfl | rfl <;> decide

/-- The tokens of an entry on its line and of what follows. -/
theorem lexes_entry {indent : String} {key value rest : List Piece} {ks ts us : List Token}
    (hindent : IsSpaces indent) (hkey : Lexes key ks) (hvalue : Lexes value ts)
    (hrest : Lexes rest us) :
    Lexes (pieces indent ++ (key ++ (pieces " = " ++ (value ++ (.char '\n' :: rest)))))
      (code indent.toList ++
        (ks ++ (code [' ', '=', ' '] ++ (ts ++ ([.lexeme (.code '\n')] ++ us))))) := by
  have hline : Lexes [.char '\n'] [.lexeme (.code '\n')] := lexes_char (by decide)
  exact (lexes_spaces hindent).append
    (hkey.append (lexes_equals.append (hvalue.append (hline.append hrest))))

theorem entriesReadAs_cons {indent key : String} {ps ps' : List Piece} {l : Literal}
    {entries : List (String × Literal)} (hindent : IsSpaces indent) (h : ReadsAs ps l)
    (hrest : EntriesReadAs ps' entries) :
    EntriesReadAs (pieces indent ++ (pieces (Text.objectKey key) ++ (pieces " = " ++
      (ps ++ (.char '\n' :: ps'))))) ((key, l) :: entries) := by
  obtain ⟨ts, hlexes, ⟨t, ht, hbegins⟩, hread⟩ := h
  obtain ⟨ts', hlexes', hread'⟩ := hrest
  obtain ⟨k, ks, hkey, hbegins', htake⟩ := exists_lexes_objectKey key
  refine ⟨_, lexes_entry hindent hkey hlexes hlexes',
    fun fuel lead close rest hlead hclose hfuel => ?_⟩
  simp only [List.length_append, List.length_singleton] at hfuel
  obtain ⟨fuel, rfl⟩ : ∃ n, fuel = n + 1 := ⟨fuel - 1, by omega⟩
  have hentries : readEntries fuel (ts' ++ (code close.toList ++ .lexeme (.code '\x7d') :: rest)) =
      some (entries, rest) := hread' fuel "" close rest isSpaces_empty hclose (by omega)
  have hvalue := hread fuel _ (by omega) (delimited_code (c := '\n') (by decide)
    (ts' ++ (code close.toList ++ .lexeme (.code '\x7d') :: rest)))
  obtain ⟨ts, rfl⟩ := List.head?_eq_some_iff.mp ht
  have htake := htake (code [' ', '=', ' '] ++ (t :: ts ++ .lexeme (.code '\n') ::
    (ts' ++ (code close.toList ++ .lexeme (.code '\x7d') :: rest))))
    (delimited_code (by decide) _)
  have hblank := takeEquals_blank (Bool.or_eq_false_iff.mp hbegins.1).1 (ts ++
    .lexeme (.code '\n') :: (ts' ++ (code close.toList ++ .lexeme (.code '\x7d') :: rest)))
  have hdrop := dropWhile_spaces (isSpaces_append hlead hindent) hbegins'.1 (ks ++
    (code [' ', '=', ' '] ++ (t :: ts ++ .lexeme (.code '\n') ::
      (ts' ++ (code close.toList ++ .lexeme (.code '\x7d') :: rest)))))
  simp only [List.append_assoc, List.cons_append, List.nil_append] at hdrop hvalue htake hblank ⊢
  rw [code_toList_append, readEntries, hdrop]
  split
  · next heq =>
      cases heq
      exact absurd rfl hbegins'.2.2
  · rw [htake]
    dsimp only
    rw [hblank, Option.bind_some, hvalue]
    change (readEntries fuel _).map _ = _
    rw [hentries]
    rfl

theorem readsAs_object {lead close : String} {ps : List Piece} {entries : List (String × Literal)}
    (hlead : IsSpaces lead) (hclose : IsSpaces close) (h : EntriesReadAs ps entries) :
    ReadsAs (.char '{' :: (pieces lead ++ (ps ++ (pieces close ++ [.char '}']))))
      (.object entries) := by
  obtain ⟨ts, hlexes, hread⟩ := h
  have htokens := lexes_braces ((lexes_spaces hlead).append
    (hlexes.append (lexes_spaces hclose)))
  simp only [List.append_assoc] at htokens
  refine ⟨_, htokens, ⟨_, rfl, rfl, by decide, by decide⟩, fun fuel rest hfuel _ => ?_⟩
  simp only [List.length_append, List.length_cons] at hfuel
  obtain ⟨fuel, rfl⟩ : ∃ n, fuel = n + 1 := ⟨fuel - 1, by omega⟩
  have hentries := hread fuel lead close rest hlead hclose (by omega)
  simp only [List.append_assoc, List.cons_append, List.nil_append]
  rw [readValue, hentries]
  rfl

/-- What reads as a literal inside other code does so alone. -/
theorem ReadsAs.read {ps : List Piece} {l : Literal} (h : ReadsAs ps l) : read ps = some l := by
  obtain ⟨ts, hlexes, -, hread⟩ := h
  have htokens : tokens ps = ts := hlexes.tokens_eq []
  have hvalue := hread (ts.length + 1) [] (Nat.lt_succ_self _) nofun
  rw [List.append_nil] at hvalue
  rw [LiteralReading.read, htokens, hvalue]

/-! ### Layouts -/

/-- A value as it is laid out. -/
inductive Layout where
  | scalar (s : Scalar)
  | noItems
  | list (items : List Layout)
  | noEntries
  | object (entries : List (String × Layout))
  /-- A value that a document is made from. -/
  | call (inner : Layout)

def indentation (n : Nat) : String := String.join (List.replicate n "  ")

def scalarPieces : Scalar → List Piece
  | .reference r => [.expression r]
  | s => pieces s.text

def scalarLiteral : Scalar → Literal
  | .null => .null
  | .bool b => .bool b
  | .number n => ofWord n.configText.toList
  | .string s => .text s
  | .reference r => .expression r

mutual

/-- A value at some depth, from its first character on. -/
def written (n : Nat) : Layout → List Piece
  | .scalar s => scalarPieces s
  | .noItems => [.char '[', .char ']']
  | .list items => .char '[' :: (pieces "\n" ++
      (writtenItems (n + 1) items ++ (pieces (indentation n) ++ [.char ']'])))
  | .noEntries => [.char '\x7b', .char '\x7d']
  | .object entries => .char '\x7b' :: (pieces "\n" ++
      (writtenEntries (n + 1) entries ++ (pieces (indentation n) ++ [.char '\x7d'])))
  | .call inner => pieces "jsonencode" ++ .char '(' :: (written n inner ++ [.char ')'])

def writtenItems (n : Nat) : List Layout → List Piece
  | [] => []
  | item :: rest => pieces (indentation n) ++
      (written n item ++ (.char ',' :: (pieces "\n" ++ writtenItems n rest)))

def writtenEntries (n : Nat) : List (String × Layout) → List Piece
  | [] => []
  | (key, value) :: rest => pieces (indentation n) ++ (pieces (Text.objectKey key) ++
      (pieces " = " ++ (written n value ++ (.char '\n' :: writtenEntries n rest))))

end

mutual

/-- What a layout is meant for. -/
def literal : Layout → Literal
  | .scalar s => scalarLiteral s
  | .noItems => .list []
  | .list items => .list (literals items)
  | .noEntries => .object []
  | .object entries => .object (literalEntries entries)
  | .call inner => .encoded (literal inner)

def literals : List Layout → List Literal
  | [] => []
  | item :: rest => literal item :: literals rest

def literalEntries : List (String × Layout) → List (String × Literal)
  | [] => []
  | (key, value) :: rest => (key, literal value) :: literalEntries rest

end

theorem isSpaces_indentation (n : Nat) : IsSpaces (indentation n) := by
  intro c hc
  left
  induction n with
  | zero => cases hc
  | succ n ih =>
      rw [indentation, List.replicate_succ, String.join_cons, String.toList_append,
        List.mem_append] at hc
      rcases hc with hc | hc
      · have hc : c ∈ [' ', ' '] := hc
        simpa using hc
      · exact ih hc

theorem readsAs_bool (b : Bool) : ReadsAs (pieces (toString b)) (.bool b) := by
  cases b with
  | true => exact readsAs_word (s := "true") (by decide) (by decide) (by decide)
  | false => exact readsAs_word (s := "false") (by decide) (by decide) (by decide)

theorem configText_ne {n : Number} {word : String} (hnumeral : numeral? word.toList = none)
    (hword : word ∉ ["NaN", "inf", "-inf"]) : n.configText ≠ word := by
  rintro heq
  rcases configText_cases n with ⟨q, hq⟩ | hmem
  · rw [heq, hnumeral] at hq
    cases hq
  · rw [heq] at hmem
    exact hword hmem

theorem readsAs_number (n : Number) :
    ReadsAs (pieces n.configText) (ofWord n.configText.toList) := by
  refine readsAs_word ?_ (all_isWord_configText n) (configText_ne (by decide) (by decide))
  have hne : n.configText ≠ "" := configText_ne rfl (by decide)
  exact fun hnil => hne (String.toList_eq_nil_iff.mp hnil)

theorem readsAs_scalar (s : Scalar) : ReadsAs (scalarPieces s) (scalarLiteral s) := by
  cases s with
  | null => exact readsAs_word (s := "null") (by decide) (by decide) (by decide)
  | bool b => exact readsAs_bool b
  | number n => exact readsAs_number n
  | string s => exact readsAs_quote s
  | reference r => exact readsAs_expression r

mutual

/-- A layout reads as what it is meant for, at any depth. -/
theorem readsAs_written (n : Nat) : ∀ layout, ReadsAs (written n layout) (literal layout)
  | .scalar s => readsAs_scalar s
  | .noItems => readsAs_list isSpaces_empty isSpaces_empty itemsReadAs_nil
  | .list items =>
      readsAs_list isSpaces_line (isSpaces_indentation n) (itemsReadAs_written (n + 1) items)
  | .noEntries => readsAs_object isSpaces_empty isSpaces_empty entriesReadAs_nil
  | .object entries =>
      readsAs_object isSpaces_line (isSpaces_indentation n) (entriesReadAs_written (n + 1) entries)
  | .call inner => readsAs_call (readsAs_written n inner)

theorem itemsReadAs_written (n : Nat) :
    ∀ items, ItemsReadAs (writtenItems n items) (literals items)
  | [] => itemsReadAs_nil
  | item :: rest => itemsReadAs_cons (isSpaces_indentation n) isSpaces_line
      (readsAs_written n item) (itemsReadAs_written n rest)

theorem entriesReadAs_written (n : Nat) :
    ∀ entries, EntriesReadAs (writtenEntries n entries) (literalEntries entries)
  | [] => entriesReadAs_nil
  | (_, value) :: rest => entriesReadAs_cons (isSpaces_indentation n) (readsAs_written n value)
      (entriesReadAs_written n rest)

end

/-- Pieces of a layout are one expression, which denotes what the layout is meant for. -/
theorem read_written (n : Nat) (layout : Layout) :
    read (written n layout) = some (literal layout) :=
  (readsAs_written n layout).read

end StackExport.Proofs.LayoutReading
