import StreamPipeline.Proofs.Statement.OptionClauses

/-! # Reading a login configuration

The credentials of a Kafka sink are written into a login configuration, and that one into a literal
of the statement that creates the table. Reading the literal and then the configuration, each by its
own rule, gives back the two credentials and no other option, whatever quotes and backslashes they
hold.
-/

namespace StreamPipeline

/-- A login module, how it is needed, and its options. -/
structure LoginEntry where
  module : String
  flag : String
  options : List (String × String)
deriving Repr, DecidableEq

namespace LoginEntry

/-! ### The reader -/

/-- The value in front of the double quote that ends it, and what follows the quote. A backslash
makes the next character literal. -/
def value? : List Char → Option (List Char × List Char)
  | [] => none
  | '"' :: rest => some ([], rest)
  | ['\\'] => none
  | '\\' :: c :: rest => (value? rest).map fun (value, behind) => (c :: value, behind)
  | c :: rest => (value? rest).map fun (value, behind) => (c :: value, behind)

theorem length_of_value? {cs value behind : List Char} (h : value? cs = some (value, behind)) :
    behind.length < cs.length := by
  fun_induction value? cs generalizing value behind with
  | case1 | case3 => cases h
  | case2 => cases h; simp
  | case4 c rest ih | case5 c rest _ _ _ ih =>
    obtain ⟨⟨value, behind⟩, hv, he⟩ := Option.map_eq_some_iff.mp h
    cases he
    have := ih hv
    simp only [List.length_cons]
    omega

def isWordChar (c : Char) : Bool := c.isAlphanum || c == '.' || c == '_'

/-- A word behind any blanks, and what follows it. -/
def word (cs : List Char) : List Char × List Char :=
  let cs := cs.dropWhile Char.isWhitespace
  (cs.takeWhile isWordChar, cs.dropWhile isWordChar)

theorem length_word (cs : List Char) : (word cs).2.length ≤ cs.length :=
  ((List.dropWhile_sublist _).trans (List.dropWhile_sublist _)).length_le

/-- The options up to the semicolon that ends the text. -/
def options? (cs : List Char) : Option (List (String × String)) :=
  match _h : word cs with
  | (key, '=' :: '"' :: rest) =>
    match _hv : value? rest with
    | some (value, behind) =>
      (options? behind).map ((String.ofList key, String.ofList value) :: ·)
    | none => none
  | ([], [';']) => some []
  | _ => none
termination_by cs.length
decreasing_by
  have hlength := length_word cs
  have := length_of_value? _hv
  rw [_h] at hlength
  simp only [List.length_cons] at hlength
  omega

/-- A configuration with one module. -/
def read? (config : String) : Option LoginEntry :=
  let (module, rest) := word config.toList
  let (flag, rest) := word rest
  (options? rest).map (⟨String.ofList module, String.ofList flag, ·⟩)

/-! ### What is read -/

theorem value?_literal {c : Char} (hq : c ≠ '"') (hb : c ≠ '\\') (rest : List Char) :
    value? (c :: rest) = (value? rest).map fun (value, behind) => (c :: value, behind) := by
  conv => left; unfold value?
  split
  · contradiction
  next h => exact absurd (List.cons.inj h).1 hq
  next h => exact absurd (List.cons.inj h).1 hb
  next h => exact absurd (List.cons.inj h).1 hb
  next h => cases h; rfl

theorem word_blank (cs : List Char) : word (' ' :: cs) = word cs := rfl

theorem word_append {w rest : List Char} (hne : w ≠ []) (hw : ∀ c ∈ w, isWordChar c = true)
    (hr : ∀ c ∈ rest.head?, isWordChar c = false) : word (w ++ rest) = (w, rest) := by
  obtain ⟨c, w', rfl⟩ := List.exists_cons_of_ne_nil hne
  have hc : c.isWhitespace = false := by
    have hword := hw c List.mem_cons_self
    cases hb : c.isWhitespace with
    | false => rfl
    | true =>
      simp only [Char.isWhitespace, Bool.or_eq_true, decide_eq_true_eq] at hb
      rcases hb with ((rfl | rfl) | rfl) | rfl <;> cases hword
  have hstart : (c :: w' ++ rest).dropWhile Char.isWhitespace = c :: w' ++ rest := by
    rw [List.cons_append, List.dropWhile_cons_of_neg (by simp [hc])]
  unfold word
  simp only [hstart, Text.takeWhile_stop hw hr, Text.dropWhile_stop hw hr]

theorem options?_value {cs key rest value behind : List Char}
    (hw : word cs = (key, '=' :: '"' :: rest)) (hv : value? rest = some (value, behind)) :
    options? cs =
      (options? behind).map ((String.ofList key, String.ofList value) :: ·) := by
  rw [options?]
  split
  next h =>
    rw [hw] at h
    cases h
    split
    next h => rw [hv] at h; cases h; rfl
    next h => rw [hv] at h; cases h
  next h => rw [hw] at h; cases h
  next hno _ => exact absurd hw (hno _ _)

theorem options?_end : options? [';'] = some [] := by
  rw [options?]
  rfl

end LoginEntry

/-! ### Credentials -/

namespace KafkaSink

/-- A value with a backslash before each backslash and double quote. -/
def escaped (cs : List Char) : List Char :=
  cs.flatMap fun c => if c = '\\' ∨ c = '"' then ['\\', c] else [c]

/-- Backslashes are doubled first and double quotes marked then: in the other order the marks would
be doubled as well. -/
theorem loginValue_eq (s : String) :
    loginValue s =
      String.ofList (Text.replaceChar '"' ['\\', '"'] (Text.doubling '\\' s.toList)) := by
  unfold loginValue Text.doubling Text.replaceChar
  rw [List.flatMap_assoc]
  refine congrArg String.ofList (List.flatMap_congr fun c _ => ?_)
  by_cases hb : c = '\\'
  · subst hb; rfl
  · by_cases hq : c = '"'
    · subst hq; rfl
    · simp [hb, hq]

theorem value?_escaped (cs rest : List Char) :
    LoginEntry.value? (escaped cs ++ '"' :: rest) = some (cs, rest) := by
  induction cs with
  | nil => rfl
  | cons c cs ih =>
    have hcons : escaped (c :: cs) =
        (if c = '\\' ∨ c = '"' then ['\\', c] else [c]) ++ escaped cs := rfl
    rw [hcons, List.append_assoc]
    by_cases hc : c = '\\' ∨ c = '"'
    · rw [if_pos hc, List.cons_append, List.singleton_append, LoginEntry.value?, ih]
      rfl
    · obtain ⟨hb, hq⟩ := not_or.mp hc
      rw [if_neg hc, List.singleton_append, LoginEntry.value?_literal hq hb, ih]
      rfl

def loginModule : String := "org.apache.kafka.common.security.plain.PlainLoginModule"

/-- The entry that a login configuration has to hold, and nothing else. -/
def login (c : Credentials) : LoginEntry where
  module := loginModule
  flag := "required"
  options := [("username", c.username), ("password", c.password)]

/-- A value between quotes, behind its key, is read as the value that was escaped. -/
theorem options?_escaped (key value : String) (behind : List Char) (hne : key ≠ "")
    (hkey : ∀ c ∈ key.toList, LoginEntry.isWordChar c = true) :
    LoginEntry.options? (' ' :: (key.toList ++ '=' :: '"' :: (escaped value.toList ++
        '"' :: behind))) =
      (LoginEntry.options? behind).map ((key, value) :: ·) := by
  have hw : LoginEntry.word (' ' :: (key.toList ++ '=' :: '"' :: (escaped value.toList ++
      '"' :: behind))) = (key.toList, '=' :: '"' :: (escaped value.toList ++ '"' :: behind)) := by
    rw [LoginEntry.word_blank]
    exact LoginEntry.word_append (mt String.toList_eq_nil_iff.mp hne) hkey (by rintro c ⟨⟩; rfl)
  rw [LoginEntry.options?_value hw (value?_escaped _ _)]
  simp only [String.ofList_toList]

theorem toList_loginConfig (c : Credentials) :
    (loginConfig c).toList =
      loginModule.toList ++ ' ' :: ("required".toList ++
        ' ' :: ("username".toList ++ '=' :: '"' :: (escaped c.username.toList ++
          '"' :: ' ' :: ("password".toList ++ '=' :: '"' :: (escaped c.password.toList ++
            ['"', ';']))))) := by
  have hstart : "org.apache.kafka.common.security.plain.PlainLoginModule required username=\"" =
      loginModule ++ " " ++ "required" ++ " " ++ "username" ++ "=\"" := rfl
  have hbetween : "\" password=\"" = "\" " ++ "password" ++ "=\"" := rfl
  unfold loginConfig loginValue
  rw [hstart, hbetween]
  simp only [String.toList_append, String.toList_ofList, List.append_assoc]
  rfl

/-- A login configuration is read as the credentials that it was written for. -/
theorem read?_loginConfig (c : Credentials) :
    LoginEntry.read? (loginConfig c) = some (login c) := by
  have hmodule (rest : List Char) : LoginEntry.word (loginModule.toList ++ ' ' :: rest) =
      (loginModule.toList, ' ' :: rest) :=
    LoginEntry.word_append (by decide) (List.all_eq_true.mp (by decide)) (by rintro c ⟨⟩; rfl)
  have hflag (rest : List Char) : LoginEntry.word (' ' :: ("required".toList ++ ' ' :: rest)) =
      ("required".toList, ' ' :: rest) := by
    rw [LoginEntry.word_blank]
    exact LoginEntry.word_append (by decide) (List.all_eq_true.mp (by decide))
      (by rintro c ⟨⟩; rfl)
  unfold LoginEntry.read?
  rw [toList_loginConfig]
  simp only [hmodule, hflag]
  rw [options?_escaped "username" _ _ (by decide) (List.all_eq_true.mp (by decide)),
    options?_escaped "password" _ _ (by decide) (List.all_eq_true.mp (by decide)),
    LoginEntry.options?_end]
  simp only [Option.map_some, String.ofList_toList]
  rfl

theorem loginConfig_injective : Function.Injective loginConfig := by
  intro c c' h
  have hread := congrArg LoginEntry.read? h
  rw [read?_loginConfig, read?_loginConfig] at hread
  obtain ⟨user, password⟩ := c
  obtain ⟨user', password'⟩ := c'
  simpa [login] using hread

theorem lookup_options (s : KafkaSink) :
    s.options.lookup "properties.sasl.jaas.config" = some (loginConfig s.credentials) := by
  unfold options
  cases s.truststoreLocation <;> cases s.truststorePassword <;> rfl

end KafkaSink

/-- The login configuration among the options of a statement. -/
def loginConfig? (sql : String) : Option String :=
  (Sql.withOptions? sql).bind (·.lookup "properties.sasl.jaas.config")

/-- The login configuration in the statement of a Kafka table has the user name and the password of
the sink and nothing else, whatever characters they are made of. So different credentials never have
the same configuration. -/
theorem credentials_read_back :
    (∀ settings sink (s : KafkaSink) view columns defs,
      Column.runtimeDefs view columns = .ok defs →
        (loginConfig? (sinkTableStatement settings sink (.kafka s) defs)).bind LoginEntry.read? =
          some (KafkaSink.login s.credentials)) ∧
      ∀ c c', KafkaSink.loginConfig c = KafkaSink.loginConfig c' → c = c' := by
  refine ⟨fun settings sink s view columns defs h => ?_, fun _ _ h =>
    KafkaSink.loginConfig_injective h⟩
  have hconfig : loginConfig? (sinkTableStatement settings sink (.kafka s) defs) =
      some (KafkaSink.loginConfig s.credentials) := by
    rw [loginConfig?, withOptions?_sinkTable settings sink (.kafka s) h, Option.bind_some]
    exact s.lookup_options
  rw [hconfig, Option.bind_some, KafkaSink.read?_loginConfig]

/-- A sink whose credentials begin and end with quotes and backslashes and look like options. -/
def escapedLogin : KafkaSink where
  topic := "orders"
  bootstrapServers := "broker:9093"
  truststoreLocation := none
  truststorePassword := some "x', 'properties.sasl.jaas.config' = 'y"
  credentials := ⟨"\\o'neil\" password=\"", "\"; other=\"'\\"⟩
  format := "json"

theorem credentials_read_back_escapedLogin :
    Column.runtimeDefs "orders" [clauseColumn] =
        .ok ["`note`` INT) WITH ('connector' = 'print'` INT"] ∧
      (loginConfig? (sinkTableStatement {} "copy` WITH (" (.kafka escapedLogin)
        ["`note`` INT) WITH ('connector' = 'print'` INT"])).bind LoginEntry.read? =
          some ⟨"org.apache.kafka.common.security.plain.PlainLoginModule", "required",
            [("username", "\\o'neil\" password=\""), ("password", "\"; other=\"'\\")]⟩ := by
  have hdefs : Column.runtimeDefs "orders" [clauseColumn] =
      .ok ["`note`` INT) WITH ('connector' = 'print'` INT"] := rfl
  obtain ⟨hstatements, -⟩ := credentials_read_back
  exact ⟨hdefs, hstatements {} "copy` WITH (" escapedLogin _ _ _ hdefs⟩

end StreamPipeline
