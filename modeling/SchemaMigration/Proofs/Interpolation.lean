import SchemaMigration.Proofs.Naming
import SchemaMigration.Proofs.Storage

/-! # Names inside statements

The name of a tracking table is put into statements as it is. It comes out of them as it went in: an
identifier is one word of a statement, so that a statement which makes or drops what has the name reads
as just that, whatever the name is.
-/

namespace SchemaMigration.Sql

/-- Characters are split into tokens, given as many steps as there are characters. -/
def Lexes (cs : List Char) (ts : List Token) : Prop :=
  ∀ fuel, cs.length ≤ fuel → tokensAux fuel cs = some ts

theorem Lexes.nil : Lexes [] [] := by
  rintro (_ | fuel) _ <;> rfl

theorem Lexes.tokens_eq {text : String} {ts : List Token} (h : Lexes text.toList ts) :
    tokens text = some ts :=
  h _ (Nat.le_refl _)

theorem startsWord_of_begins {c : Char} (h : BeginsIdentifier c) : startsWord c = true := by
  have start := isIdentifierStart_iff.mpr h
  rw [isIdentifierStart] at start
  rw [startsWord, start, Bool.true_or]

theorem insideWord_of_continues {c : Char} (h : ContinuesIdentifier c) : insideWord c = true := by
  have part := isIdentifierPart_iff.mpr h
  simp only [isIdentifierPart, Char.isAlphanum, Bool.or_eq_true, beq_iff_eq] at part
  simp only [insideWord, startsWord, Bool.or_eq_true, beq_iff_eq]
  tauto

theorem bounds_of_begins {c : Char} (h : BeginsIdentifier c) : 65 ≤ c.toNat ∧ c.toNat ≤ 122 := by
  rcases h with upper | lower | rfl
  · exact ⟨upper.1, Nat.le_trans upper.2 (by decide)⟩
  · exact ⟨Nat.le_trans (by decide) lower.1, lower.2⟩
  · decide

theorem not_blank_of_begins {c : Char} (h : BeginsIdentifier c) : Text.isBlank c = false := by
  have bounds := bounds_of_begins h
  simp only [Text.isBlank, Bool.or_eq_false_iff, Bool.and_eq_false_iff, decide_eq_false_iff_not,
    beq_eq_false_iff_ne]
  omega

theorem not_digit_of_begins {c : Char} (h : BeginsIdentifier c) : c.isDigit = false := by
  have bounds := bounds_of_begins h
  rw [← Bool.not_eq_true, Char.isDigit, Bool.and_eq_true, decide_eq_true_eq, decide_eq_true_eq]
  rintro ⟨-, high⟩
  have low : c.toNat ≤ 57 := UInt32.le_iff_toNat_le.mp high
  omega

theorem Lexes.word {name : String} (identifier : Identifier name) {rest : List Char} {ts : List Token}
    (stops : ∀ c ∈ rest.head?, insideWord c = false) (h : Lexes rest ts) :
    Lexes (name.toList ++ rest) (.word name :: ts) := by
  obtain ⟨c, tail, written, begins, continues⟩ := identifier
  rintro (_ | fuel) long
  · simp [written] at long
  have other {d : Char} (foreign : isIdentifierStart d = false) : c ≠ d := by
    rintro rfl
    exact absurd (isIdentifierStart_iff.mpr begins) (Bool.eq_false_iff.mp foreign)
  have inside : ∀ d ∈ tail, insideWord d = true := fun d among => insideWord_of_continues (continues d among)
  have taken : (tail ++ rest).takeWhile insideWord = tail := by
    rw [List.takeWhile_append_of_pos inside]
    cases rest with
    | nil => simp
    | cons d others => simp [stops d rfl]
  have following : tokensAux fuel rest = some ts := by
    apply h
    rw [written, List.cons_append, List.length_cons, List.length_append] at long
    omega
  rw [written, List.cons_append, tokensAux]
  simp only [not_blank_of_begins begins, other (d := '-') (by decide), other (d := '/') (by decide),
    other (d := '\'') (by decide), other (d := '"') (by decide), startsWord_of_begins begins, taken,
    List.drop_left, following, ← written, String.ofList_toList, decide_false, Bool.false_and,
    Bool.false_eq_true, if_false, if_true]
  rfl

theorem Lexes.blank {rest : List Char} {ts : List Token} (h : Lexes rest ts) :
    Lexes (' ' :: rest) ts := by
  rintro (_ | fuel) long
  · simp at long
  · exact h fuel (by simpa using long)

/-- Characters that are signs by themselves, whatever follows them; a dot is one unless a numeral
    begins with it. -/
def marks : List Char := ['(', ')', ',', '.']

theorem Lexes.sign {s : String} {c : Char} (written : s.toList = [c]) {rest : List Char}
    {ts : List Token} (mark : c ∈ marks) (noNumeral : c = '.' → ∀ d ∈ rest.head?, d.isDigit = false)
    (h : Lexes rest ts) : Lexes (c :: rest) (.sign s :: ts) := by
  rintro (_ | fuel) long
  · simp at long
  have following : tokensAux fuel rest = some ts := h fuel (by simpa using long)
  have plain : ∀ c ∈ marks, Text.isBlank c = false ∧ c ≠ '-' ∧ c ≠ '/' ∧ c ≠ '\'' ∧ c ≠ '"' ∧
      startsWord c = false ∧ c.isDigit = false ∧ "(),;.?=<>+-*".toList.contains c = true := by
    intro c among
    simp only [marks, List.mem_cons, List.not_mem_nil, or_false] at among
    rcases among with rfl | rfl | rfl | rfl <;> decide
  obtain ⟨visible, noComment, noBlock, noText, noQuote, noWord, noDigit, sign⟩ := plain c mark
  have numeral : (decide (c = '.') && (rest.head?.map Char.isDigit).getD false) = false := by
    rw [Bool.and_eq_false_imp, decide_eq_true_eq]
    intro dot
    cases rest with
    | nil => rfl
    | cons d others => exact noNumeral dot d rfl
  have single : ["<=", ">=", "<>", "!=", "::"].contains (String.ofList (c :: rest.take 1)) = false := by
    rw [List.contains_eq_mem, decide_eq_false_iff_not]
    intro among
    have first : (String.ofList (c :: rest.take 1)).toList.head? = some c := by
      rw [String.toList_ofList, List.head?_cons]
    simp only [List.mem_cons, List.not_mem_nil, or_false] at among
    rcases among with pair | pair | pair | pair | pair <;>
      · rw [pair] at first
        rw [← Option.some.inj first] at mark
        exact absurd mark (by decide)
  have text : String.ofList [c] = s := by rw [← written, String.ofList_toList]
  rw [tokensAux]
  simp only [visible, noComment, noBlock, noText, noQuote, noWord, noDigit, sign, numeral, single,
    text, following, decide_false, Bool.false_and, Bool.or_self, Bool.false_eq_true, if_false, if_true]
  rfl

/-- A token as it is written: after a blank, unless it is a comma. -/
def spaced : Token → List Char
  | .word text => ' ' :: text.toList
  | .sign "," => [',']
  | .sign s => ' ' :: s.toList
  | _ => []

/-- Whether a token is an identifier or one of the signs of a definition. -/
def isPlain : Token → Bool
  | .word text => isIdentifier text.toList
  | .sign s => s ∈ ["(", ")", ","]
  | _ => false

theorem spaced_stops {t : Token} (plain : isPlain t = true) (rest : List Char) :
    ∀ c ∈ (spaced t ++ rest).head?, insideWord c = false := by
  intro c first
  cases t with
  | word text =>
      cases first
      rfl
  | sign s =>
      simp only [isPlain, decide_eq_true_eq, List.mem_cons, List.not_mem_nil, or_false] at plain
      rcases plain with rfl | rfl | rfl <;> cases first <;> rfl
  | quotedName | numeral | text => cases plain

theorem Lexes.spaced {us : List Token} (plain : ∀ t ∈ us, isPlain t = true) {rest : List Char}
    {ts : List Token} (stops : ∀ c ∈ rest.head?, insideWord c = false) (h : Lexes rest ts) :
    Lexes (us.flatMap spaced ++ rest) (us ++ ts) := by
  induction us with
  | nil => exact h
  | cons t us ih =>
      have others := ih fun u inside => plain u (List.mem_cons_of_mem t inside)
      have stops' : ∀ c ∈ (us.flatMap Sql.spaced ++ rest).head?, insideWord c = false := by
        cases us with
        | nil => exact stops
        | cons u us =>
            rw [List.flatMap_cons, List.append_assoc]
            exact spaced_stops (plain u (by simp)) _
      rw [List.flatMap_cons, List.append_assoc]
      have first := plain t List.mem_cons_self
      cases t with
      | word text => exact (Lexes.word (isIdentifier_iff.mp first) stops' others).blank
      | sign s =>
          simp only [isPlain, decide_eq_true_eq, List.mem_cons, List.not_mem_nil, or_false] at first
          rcases first with rfl | rfl | rfl
          · exact (others.sign (c := '(') rfl (by decide) nofun).blank
          · exact (others.sign (c := ')') rfl (by decide) nofun).blank
          · exact others.sign (c := ',') rfl (by decide) nofun
      | quotedName | numeral | text => cases first

/-- The tokens of a name: its identifiers, with the dot between them. -/
def nameTokens (schema : Option String) (name : String) : List Token :=
  match schema with
  | some schema => [.word schema, .sign ".", .word name]
  | none => [.word name]

theorem Lexes.name {text name : String} {schema : Option String}
    (spells : TableName.Spells text schema name) {rest : List Char} {ts : List Token}
    (stops : ∀ c ∈ rest.head?, insideWord c = false) (h : Lexes rest ts) :
    Lexes (text.toList ++ rest) (nameTokens schema name ++ ts) := by
  cases spells with
  | plain identifier => exact Lexes.word identifier stops h
  | @qualified schema name outer inner =>
      have noNumeral : ∀ d ∈ (name.toList ++ rest).head?, d.isDigit = false := by
        obtain ⟨c, tail, written, begins, -⟩ := inner
        intro d first
        rw [written] at first
        cases first
        exact not_digit_of_begins begins
      have dotted := (Lexes.word inner stops h).sign (s := ".") (c := '.') rfl (by decide) fun _ => noNumeral
      have all := Lexes.word outer (fun d first => by cases first; rfl) dotted
      simpa [nameTokens] using all

/-- A statement with a name in it, between words and signs. -/
theorem tokens_naming {sql text name : String} {schema : Option String}
    (spells : TableName.Spells text schema name) (first : String) (before after : List Token)
    (written : sql.toList = first.toList ++
      (before.flatMap spaced ++ ' ' :: (text.toList ++ (after.flatMap spaced ++ []))))
    (plain : ∀ t ∈ .word first :: before ++ after, isPlain t = true) :
    tokens sql = some (.word first :: (before ++ (nameTokens schema name ++ (after ++ [])))) := by
  have plain_after : ∀ t ∈ after, isPlain t = true := fun t inside => plain t (by simp [inside])
  have plain_before : ∀ t ∈ before, isPlain t = true := fun t inside => plain t (by simp [inside])
  have begins : Identifier first := isIdentifier_iff.mp (plain (.word first) (by simp))
  have tail : Lexes (after.flatMap spaced ++ []) (after ++ []) := .spaced plain_after nofun .nil
  have stops : ∀ c ∈ (after.flatMap spaced ++ []).head?, insideWord c = false := by
    cases after with
    | nil => nofun
    | cons t others =>
        rw [List.flatMap_cons, List.append_assoc]
        exact spaced_stops (plain_after t List.mem_cons_self) _
  have named := (Lexes.name spells stops tail).blank
  have all := Lexes.spaced plain_before (fun c first => by cases first; rfl) named
  apply Lexes.tokens_eq
  rw [written]
  refine Lexes.word begins ?_ all
  cases before with
  | nil => exact fun c first => by cases first; rfl
  | cons t others =>
      rw [List.flatMap_cons, List.append_assoc]
      exact spaced_stops (plain_before t List.mem_cons_self) _

theorem upper_eq {s t : String} (h : s.toList.map Char.toUpper = t.toList) : s.toUpper = t := by
  apply String.toList_injective
  rw [← h, String.toUpper, String.toList_map]

theorem listOf?_of_tokens {sql : String} {ts : List Token} {statement : Statement} {params : Nat}
    (lexed : tokens sql = some ts) (single : splitStatements ts = [ts])
    (read : Statement.ofTokens? ts = some (statement, params)) :
    Statement.listOf? sql = some [(statement, params)] := by
  simp [Statement.listOf?, lexed, single, read]

namespace Reader

variable {text : String} {ts : List Token} {n : Nat}

@[simp] theorem pure_apply {α : Type} (a : α) (c : Cursor) : (pure a : Reader α) c = some (a, c) := rfl

@[simp] theorem name_word : name ⟨.word text :: ts, n⟩ = some (text, ⟨ts, n⟩) := rfl

@[simp] theorem acceptWord_word (word : String) : acceptWord word ⟨.word text :: ts, n⟩ =
    some (if text.toUpper == word then (true, ⟨ts, n⟩) else (false, ⟨.word text :: ts, n⟩)) := by
  change (if text.toUpper == word then _ else _ : Reader Bool) _ = _
  split <;> rfl

@[simp] theorem acceptWord_sign (word s : String) : acceptWord word ⟨.sign s :: ts, n⟩ =
    some (false, ⟨.sign s :: ts, n⟩) := rfl

@[simp] theorem acceptSign_cons (s : String) (t : Token) : acceptSign s ⟨t :: ts, n⟩ =
    some (if t == .sign s then (true, ⟨ts, n⟩) else (false, ⟨t :: ts, n⟩)) := by
  change (if t == .sign s then _ else _ : Reader Bool) _ = _
  split <;> rfl

theorem acceptSign_other {s : String} (other : ts.head? ≠ some (.sign s)) :
    acceptSign s ⟨ts, n⟩ = some (false, ⟨ts, n⟩) := by
  cases ts with
  | nil => rfl
  | cons t ts =>
      have passed : (t == .sign s) = false := beq_false_of_ne fun same => other (by rw [same]; rfl)
      rw [acceptSign_cons, passed]
      rfl

theorem qualifiedName_spelled {name : String} {schema : Option String}
    (spells : TableName.Spells text schema name) (stops : ts.head? ≠ some (.sign ".")) :
    qualifiedName ⟨nameTokens schema name ++ ts, n⟩ = some (text, ⟨ts, n⟩) := by
  have ends := acceptSign_other (n := n) stops
  cases spells with
  | plain identifier =>
      simp [qualifiedName, nameTokens, ends, bind, StateT.bind]
  | @qualified schema name outer inner =>
      have dot : acceptSign "." ⟨.sign "." :: .word name :: ts, n⟩ = some (true, ⟨.word name :: ts, n⟩) :=
        rfl
      simp [qualifiedName, nameTokens, dot, bind, StateT.bind]

theorem qualifiedName_last {name : String} {schema : Option String}
    (spells : TableName.Spells text schema name) :
    qualifiedName ⟨nameTokens schema name, n⟩ = some (text, ⟨[], n⟩) := by
  rw [← List.append_nil (nameTokens schema name)]
  exact qualifiedName_spelled spells nofun

end Reader

theorem upper_keywords : "DROP".toUpper = "DROP" ∧ "CREATE".toUpper = "CREATE" ∧
    "TABLE".toUpper = "TABLE" ∧ "VIEW".toUpper = "VIEW" ∧ "SCHEMA".toUpper = "SCHEMA" ∧
    "IF".toUpper = "IF" ∧ "NOT".toUpper = "NOT" ∧ "EXISTS".toUpper = "EXISTS" := by
  refine ⟨?_, ?_, ?_, ?_, ?_, ?_, ?_, ?_⟩ <;> exact upper_eq (by decide)

theorem listOf?_dropTable (name : TableName) :
    Statement.listOf? ("DROP TABLE IF EXISTS " ++ name.text) =
      some [(.dropTable true name.text, 0)] := by
  obtain ⟨schema, own, spells⟩ := name.spells
  obtain ⟨drop, -, table, -, -, ifWord, -, existsWord⟩ := upper_keywords
  apply listOf?_of_tokens (tokens_naming spells "DROP"
    [.word "TABLE", .word "IF", .word "EXISTS"] [] (by simp [spaced]) (by decide))
  · cases schema <;> rfl
  · have named := Reader.qualifiedName_last (n := 0) spells
    simp [Statement.ofTokens?, Reader.statement, Reader.acceptWords, Reader.word, bind, StateT.bind,
      named, drop, table, ifWord, existsWord]

theorem listOf?_dropView (name : TableName) :
    Statement.listOf? ("DROP VIEW IF EXISTS " ++ name.text) =
      some [(.dropView true name.text, 0)] := by
  obtain ⟨schema, own, spells⟩ := name.spells
  obtain ⟨drop, -, -, view, -, ifWord, -, existsWord⟩ := upper_keywords
  apply listOf?_of_tokens (tokens_naming spells "DROP"
    [.word "VIEW", .word "IF", .word "EXISTS"] [] (by simp [spaced]) (by decide))
  · cases schema <;> rfl
  · have named := Reader.qualifiedName_last (n := 0) spells
    simp [Statement.ofTokens?, Reader.statement, Reader.acceptWords, Reader.word, bind, StateT.bind,
      named, drop, view, ifWord, existsWord]

theorem listOf?_createSchema {schema : String} (identifier : Identifier schema) :
    Statement.listOf? ("CREATE SCHEMA IF NOT EXISTS " ++ schema) =
      some [(.createSchema true schema, 0)] := by
  obtain ⟨-, create, -, -, schemaWord, ifWord, notWord, existsWord⟩ := upper_keywords
  apply listOf?_of_tokens (tokens_naming (.plain identifier) "CREATE"
    [.word "SCHEMA", .word "IF", .word "NOT", .word "EXISTS"] [] (by simp [spaced]) (by decide))
  · rfl
  · simp [Statement.ofTokens?, Reader.statement, Reader.acceptWords, Reader.word, bind, StateT.bind,
      nameTokens, create, schemaWord, ifWord, notWord, existsWord]

def columnTokens : List Token := [
  .sign "(", .word "id", .word "VARCHAR", .word "PRIMARY", .word "KEY", .sign ",",
  .word "status", .word "VARCHAR", .word "NOT", .word "NULL", .sign ",",
  .word "started_at", .word "TIMESTAMP", .word "NOT", .word "NULL", .sign ",",
  .word "finished_at", .word "TIMESTAMP", .sign ",",
  .word "checksum", .word "VARCHAR", .sign ",",
  .word "failure_reason", .word "VARCHAR", .sign ")"]

theorem Reader.list_columnDefinition :
    list columnDefinition ⟨columnTokens.tail, 0⟩ =
      some (trackingColumns true, ⟨[.sign ")"], 0⟩) := by
  have varchar := upper_eq (s := "VARCHAR") (t := "VARCHAR") (by decide)
  have timestamp := upper_eq (s := "TIMESTAMP") (t := "TIMESTAMP") (by decide)
  have primary := upper_eq (s := "PRIMARY") (t := "PRIMARY") (by decide)
  have key := upper_eq (s := "KEY") (t := "KEY") (by decide)
  have notWord := upper_eq (s := "NOT") (t := "NOT") (by decide)
  have null := upper_eq (s := "NULL") (t := "NULL") (by decide)
  have get_eq (c : Cursor) : (get : Reader Cursor) c = some (c, c) := rfl
  simp [columnTokens, list, commaList, columnDefinition, typeName, constraints, acceptWords, word,
    ColumnType.ofName?, trackingColumns, get_eq, bind, StateT.bind, varchar, timestamp, primary, key,
    notWord, null]

theorem listOf?_createTable (name : TableName) :
    Statement.listOf? (Call.createTable name).text =
      some [(.createTable true name.text (trackingColumns true), 0)] := by
  have written : (Call.createTable name).text.toList = "CREATE".toList ++
      ([Token.word "TABLE", .word "IF", .word "NOT", .word "EXISTS"].flatMap spaced ++
        ' ' :: (name.text.toList ++ (columnTokens.flatMap spaced ++ []))) := by
    change ("CREATE TABLE IF NOT EXISTS " ++ name.text ++ " ( id VARCHAR PRIMARY KEY, " ++
      "status VARCHAR NOT NULL, started_at TIMESTAMP NOT NULL, finished_at TIMESTAMP, " ++
      "checksum VARCHAR, failure_reason VARCHAR )").toList = _
    simp [columnTokens, spaced]
  obtain ⟨schema, own, spells⟩ := name.spells
  obtain ⟨-, create, table, -, -, ifWord, notWord, existsWord⟩ := upper_keywords
  apply listOf?_of_tokens (tokens_naming spells "CREATE"
    [.word "TABLE", .word "IF", .word "NOT", .word "EXISTS"] columnTokens written (by decide))
  · cases schema <;> rfl
  · have named : Reader.qualifiedName ⟨nameTokens schema own ++ (columnTokens ++ []), 0⟩ =
        some (name.text, ⟨columnTokens ++ [], 0⟩) := Reader.qualifiedName_spelled spells (by decide)
    have noQuery : Reader.acceptWord "AS" ⟨columnTokens, 0⟩ = some (false, ⟨columnTokens, 0⟩) := rfl
    have opened : Reader.sign "(" ⟨columnTokens, 0⟩ = some ((), ⟨columnTokens.tail, 0⟩) := rfl
    have closed : Reader.sign ")" ⟨[.sign ")"], 0⟩ = some ((), ⟨[], 0⟩) := rfl
    rw [List.append_nil] at named
    simp [Statement.ofTokens?, Reader.statement, Reader.acceptWords, Reader.word, bind, StateT.bind,
      named, noQuery, opened, closed, Reader.list_columnDefinition, create, table, ifWord, notWord,
      existsWord]

theorem runText_single {sql : String} {statement : Statement}
    (read : Statement.listOf? sql = some [(statement, 0)]) (db : Database) :
    runText [] sql db = match statement.run db [] with
      | .ok (answer, db') => (.ok answer, db')
      | .error text => (.error text, db) := by
  cases ran : statement.run db [] with
  | ok answered => simp [runText, read, runAll, ran]
  | error text => simp [runText, read, runAll, ran]

variable (name : TableName) (db : Database)

/-- To drop what has a name drops the relation that the name stands for. There are no views. -/
theorem dropIfExists_eq : dropIfExists name.text db = (.ok (), db.drop name.relation) := by
  have view : (execute ("DROP VIEW IF EXISTS " ++ name.text) [] db).2 = db := by
    rw [execute, runText_single (listOf?_dropView name), Statement.run]
    cases db.has (.ofQualified name.text) <;> rfl
  have table : execute ("DROP TABLE IF EXISTS " ++ name.text) [] db =
      (.ok 0, db.drop name.relation) := by
    rw [execute, runText_single (listOf?_dropTable name), Statement.run]
    change _ = ((.ok 0 : Except DbError Nat), db.drop (.ofQualified name.text))
    cases found : db.find? (.ofQualified name.text) with
    | none =>
        simp only [Database.has, found, Database.drop_absent found]
        rfl
    | some relation =>
        simp only [Database.has, found]
        rfl
  simp only [dropIfExists, view, table]
  rfl

theorem createSchemaIfNotExists_eq {schema : String} (identifier : Identifier schema) :
    createSchemaIfNotExists schema db = (.ok (), db.createSchema schema) := by
  rw [createSchemaIfNotExists, execute, runText_single (listOf?_createSchema identifier),
    Statement.run]
  cases db.hasSchema schema <;> rfl

/-- Statements that carry a name do what the calls do that they stand for, as far as statements can
    tell. -/
structure Carried (name : TableName) (db : Database) : Prop where
  drops : dropIfExists name.text db = (.ok (), db.drop name.relation)
  makesSchema : ∀ schema, name.schema? = some schema →
    createSchemaIfNotExists schema db = (.ok (), db.createSchema schema)
  answers : (runBatch (Call.createTable name).text db).1 = (db.answer (.createTable name)).1
  makesTable : ∀ other, ((runBatch (Call.createTable name).text db).2.find? other).map asPlain =
    ((db.answer (.createTable name)).2.find? other).map asPlain

theorem runBatch_createTable :
    (runBatch (Call.createTable name).text db).1 = (db.answer (.createTable name)).1 ∧
    ∀ other, ((runBatch (Call.createTable name).text db).2.find? other).map asPlain =
      ((db.answer (.createTable name)).2.find? other).map asPlain := by
  have same : RelationName.ofQualified name.text = name.relation := rfl
  rw [runBatch, runText_single (listOf?_createTable name), Statement.run, Database.answer,
    Database.createTracking]
  by_cases present : db.has name.relation = true
  · simp only [makeTable, same, present, if_true]
    exact ⟨rfl, fun _ => trivial⟩
  · by_cases placed : db.hasSchema name.relation.schema = true
    · simp only [makeTable, same, present, placed, Bool.false_eq_true, if_false, if_true, Except.map]
      refine ⟨rfl, fun other => ?_⟩
      rw [Database.find?_add, Database.find?_add]
      cases db.find? other with
      | some _ => rfl
      | none => split <;> rfl
    · simp only [makeTable, same, present, placed, Bool.false_eq_true, if_false]
      exact ⟨rfl, fun _ => trivial⟩

theorem carried : Carried name db where
  drops := dropIfExists_eq name db
  makesSchema schema own := by
    obtain ⟨spelled, text, spells⟩ := name.spells
    rw [spells.schema?_eq] at own
    subst own
    generalize name.text = whole at spells
    cases spells with
    | qualified outer inner => exact createSchemaIfNotExists_eq db outer
  answers := (runBatch_createTable name db).1
  makesTable := (runBatch_createTable name db).2

end SchemaMigration.Sql
