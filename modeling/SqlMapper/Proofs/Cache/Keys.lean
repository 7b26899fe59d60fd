import SqlMapper.Proofs.Cache.Reads
import SqlMapper.Proofs.Text.Scanning
import SqlMapper.Proofs.Value.Literal

/-!
# What a Key Tells

The key of a cached read determines the read.

The text that is digested has no lengths in it: the statement, a line break, and
the bindings joined by separators. A statement may hold line breaks and whatever
looks like bindings, and so may the texts that are bound. What tells them apart
are the quotes. The bindings form a text that is shut: its line breaks stand
between quotes. So of two ways to cut the same text at a line break, the longer
fingerprint would go on between quotes where the shorter one begins, and no text
is shut from both sides.

Of two values only the literals can be told apart by a key. Bytes and the text
that they are read as have the same literal.

## Main definitions

* `Binds.shown`: The names of bindings with the literals of their values.
* `Sha256.Separates`: Two texts do not collide.

## Theorems

* `fingerprint_inj`: A fingerprint determines names and literals.
* `fingerprint_shut`: Line breaks in a fingerprint stand between quotes.
* `queryMaterial_inj`: The text that is digested determines the statement and its bindings.
* `queryKey_determines`: The key of a read determines its table, its statement and its bindings.
-/

namespace SqlMapper

/-- The names of bindings, in order, with the literals of their values. -/
def Binds.shown (b : Binds) : List (String × String) :=
  b.entries.map fun e => (e.1, e.2.literal)

/-- Whether a digest tells two texts apart. -/
def Sha256.Separates (s t : String) : Prop :=
  Sha256.digest (Text.toBytes s) = Sha256.digest (Text.toBytes t) → Text.toBytes s = Text.toBytes t

theorem IsBindName.plain {name : String} (h : IsBindName name) :
    ∀ c ∈ name.toList, c ≠ '\'' ∧ c ≠ '\n' ∧ c ≠ '=' := by
  rcases h with ⟨word, hname, hword⟩
  intro c hc
  rw [hname, List.mem_cons] at hc
  rcases hc with rfl | hc
  · decide
  · refine ⟨?_, ?_, ?_⟩ <;> rintro rfl <;> exact absurd (hword _ hc) (by decide)

namespace Binds

/-- One binding of a fingerprint. -/
def entryText (e : String × Value) : List Char :=
  e.1.toList ++ '=' :: e.2.literal.toList

/-- Bindings behind others. -/
def laterText (es : List (String × Value)) : List Char :=
  es.flatMap fun e => '&' :: entryText e

theorem laterText_cons (e : String × Value) (es : List (String × Value)) :
    laterText (e :: es) = '&' :: (e.1.toList ++ '=' :: (e.2.literal.toList ++ laterText es)) := by
  simp only [laterText, List.flatMap_cons, entryText, List.cons_append, List.append_assoc]

theorem head?_laterText (es : List (String × Value)) :
    (laterText es).head?.all (· == '&') = true := by
  cases es with
  | nil => rfl
  | cons e es =>
      rw [laterText_cons]
      rfl

theorem toList_intercalate_entries (e : String × Value) (es : List (String × Value)) :
    ("&".intercalate ((e :: es).map fun e => e.1 ++ "=" ++ e.2.literal)).toList
      = entryText e ++ laterText es := by
  have hentry : ∀ e : String × Value, (e.1 ++ "=" ++ e.2.literal).toList = entryText e := by
    intro e
    simp only [String.toList_append, entryText, List.append_assoc]
    rfl
  induction es generalizing e with
  | nil =>
      rw [List.map_singleton, String.intercalate_singleton, hentry]
      exact (List.append_nil _).symm
  | cons d es ih =>
      have hrest := ih d
      rw [List.map_cons] at hrest
      rw [List.map_cons, List.map_cons, String.intercalate_cons_cons, String.toList_append,
        String.toList_append, hentry, hrest, List.append_assoc]
      rfl

/-- A fingerprint with a separator in front is the text of its bindings behind others. -/
theorem laterText_eq {b : Binds} (h : b.entries ≠ []) :
    laterText b.entries = '&' :: b.fingerprint.toList := by
  rcases hentries : b.entries with _ | ⟨e, es⟩
  · exact absurd hentries h
  · rw [fingerprint, hentries, toList_intercalate_entries]
    rfl

theorem fingerprint_nil {b : Binds} (h : b.entries = []) : b.fingerprint.toList = [] := by
  rw [fingerprint, h]
  rfl

theorem laterText_inj {es es' : List (String × Value)} (hnames : ∀ e ∈ es, IsBindName e.1)
    (hnames' : ∀ e ∈ es', IsBindName e.1) (h : laterText es = laterText es') :
    es.map (fun e => (e.1, e.2.literal)) = es'.map fun e => (e.1, e.2.literal) := by
  induction es generalizing es' with
  | nil =>
      cases es' with
      | nil => rfl
      | cons e' es' =>
          rw [laterText_cons] at h
          cases h
  | cons e es ih =>
      cases es' with
      | nil =>
          rw [laterText_cons] at h
          cases h
      | cons e' es' =>
          rw [laterText_cons, laterText_cons, List.cons.injEq] at h
          -- The name ends at the first equals sign, and the literal where it can be seen to.
          have hname : ∀ {name : String} {rest : List Char}, IsBindName name →
              (name.toList ++ '=' :: rest).takeWhile (· != '=') = name.toList := by
            intro name rest hname
            rw [List.takeWhile_append_of_pos fun c hc => by
              simpa only [bne_iff_ne] using (hname.plain c hc).2.2]
            exact List.append_nil _
          have hnamed := hnames e List.mem_cons_self
          have hnamed' := hnames' e' List.mem_cons_self
          have hfirst : e.1.toList = e'.1.toList := by
            rw [← hname hnamed, h.2, hname hnamed']
          have hrest := h.2
          rw [hfirst] at hrest
          have hliterals := List.tail_eq_of_cons_eq (List.append_cancel_left hrest)
          rcases LiteralForm.append_inj e.2.literal_form e'.2.literal_form (head?_laterText es)
            (head?_laterText es') hliterals with ⟨hliteral, hlater⟩
          rw [List.map_cons, List.map_cons, ih (fun d hd => hnames d (List.mem_cons_of_mem e hd))
            (fun d hd => hnames' d (List.mem_cons_of_mem e' hd)) hlater,
            String.toList_inj.mp hfirst, String.toList_inj.mp hliteral]

/-- A fingerprint determines the names and the literals of the bindings. -/
theorem fingerprint_inj {b b' : Binds} (hnames : ∀ e ∈ b.entries, IsBindName e.1)
    (hnames' : ∀ e ∈ b'.entries, IsBindName e.1) (h : b.fingerprint = b'.fingerprint) :
    b.shown = b'.shown := by
  have hne : ∀ {b : Binds}, (∀ e ∈ b.entries, IsBindName e.1) → b.entries ≠ [] →
      b.fingerprint.toList ≠ [] := by
    intro b hnames hentries hempty
    rcases hlist : b.entries with _ | ⟨e, es⟩
    · exact hentries hlist
    · rcases hnames e (hlist ▸ List.mem_cons_self) with ⟨word, hname, -⟩
      have htext := laterText_eq hentries
      rw [hempty, hlist, laterText_cons, hname] at htext
      cases htext
  by_cases hempty : b.entries = []
  · by_cases hempty' : b'.entries = []
    · rw [shown, shown, hempty, hempty']
    · exact absurd (h ▸ fingerprint_nil hempty) (hne hnames' hempty')
  · by_cases hempty' : b'.entries = []
    · exact absurd (h ▸ fingerprint_nil hempty') (hne hnames hempty)
    · exact laterText_inj hnames hnames' (by rw [laterText_eq hempty, laterText_eq hempty', h])

theorem laterText_shut {es : List (String × Value)} (hnames : ∀ e ∈ es, IsBindName e.1) :
    Text.shut false (laterText es) = true := by
  induction es with
  | nil => rfl
  | cons e es ih =>
      have hname : ∀ c ∈ '&' :: (e.1.toList ++ ['=']), c ≠ '\'' ∧ c ≠ '\n' := by
        intro c hc
        simp only [List.mem_cons, List.mem_append, List.not_mem_nil, or_false] at hc
        rcases hc with rfl | hc | rfl
        · decide
        · have hplain := (hnames e List.mem_cons_self).plain c hc
          exact ⟨hplain.1, hplain.2.1⟩
        · decide
      have hcut : laterText (e :: es)
          = ('&' :: (e.1.toList ++ ['='])) ++ (e.2.literal.toList ++ laterText es) := by
        rw [laterText_cons, List.cons_append, List.append_assoc, List.singleton_append]
      rw [hcut, Text.shut_append_of_plain hname, e.2.literal_form.shut_append]
      exact ih fun d hd => hnames d (List.mem_cons_of_mem e hd)

/-- Line breaks in a fingerprint stand between quotes. -/
theorem fingerprint_shut {b : Binds} (hnames : ∀ e ∈ b.entries, IsBindName e.1) :
    Text.shut false b.fingerprint.toList = true := by
  by_cases hempty : b.entries = []
  · rw [fingerprint_nil hempty]
    rfl
  · have hlater := laterText_shut hnames
    rw [laterText_eq hempty] at hlater
    exact hlater

end Binds

/-- Text that is cut at a line break, with something shut behind it, can be cut so in one way. -/
theorem Text.cut_inj {sql sql' rest rest' : List Char} (hshut : Text.shut false rest = true)
    (hshut' : Text.shut false rest' = true) (h : sql ++ '\n' :: rest = sql' ++ '\n' :: rest') :
    sql = sql' ∧ rest = rest' := by
  -- Otherwise one of the two ends begins inside the other, behind a line break.
  have hnot : ∀ {cs before ds : List Char}, Text.shut false cs = true →
      Text.shut false ds = true → cs ≠ before ++ '\n' :: ds := by
    intro cs before ds hcs hds hcut
    rw [hcut] at hcs
    exact Text.not_shut_of_shut (Text.shut_of_line hcs) hds
  rcases List.append_eq_append_iff.mp h with ⟨between, hsql, hline⟩ | ⟨between, hsql, hline⟩
  · cases between with
    | nil => exact ⟨(hsql.trans (List.append_nil _)).symm, List.tail_eq_of_cons_eq hline⟩
    | cons c between => exact absurd (List.tail_eq_of_cons_eq hline) (hnot hshut hshut')
  · cases between with
    | nil => exact ⟨hsql.trans (List.append_nil _), (List.tail_eq_of_cons_eq hline).symm⟩
    | cons c between => exact absurd (List.tail_eq_of_cons_eq hline) (hnot hshut' hshut)

/-- The text that is digested determines the statement and its bindings. -/
theorem queryMaterial_inj {sql sql' : String} {b b' : Binds}
    (hnames : ∀ e ∈ b.entries, IsBindName e.1) (hnames' : ∀ e ∈ b'.entries, IsBindName e.1)
    (h : queryMaterial sql b = queryMaterial sql' b') : sql = sql' ∧ b.shown = b'.shown := by
  have hlist := congrArg String.toList h
  simp only [queryMaterial, String.toList_append, List.append_assoc] at hlist
  rcases Text.cut_inj (Binds.fingerprint_shut hnames) (Binds.fingerprint_shut hnames') hlist with
    ⟨hsql, hfingerprint⟩
  exact ⟨String.toList_inj.mp hsql,
    Binds.fingerprint_inj hnames hnames' (String.toList_inj.mp hfingerprint)⟩

theorem Text.toBytes_inj {s t : String} (h : toBytes s = toBytes t) : s = t :=
  String.toByteArray_inj.mp (ByteArray.ext (Array.toList_inj.mp h))

namespace Sha256

/-- Each byte can be read back from its two digits. -/
theorem hexByte_inj {a b : UInt8} (h : hexByte a = hexByte b) : a = b := by
  have hdigit : ∀ i < 16, ∀ j < 16, Nat.digitChar i = Nat.digitChar j → i = j := by decide
  simp only [hexByte, List.cons.injEq, and_true] at h
  have ha := a.toNat_lt
  have hb := b.toNat_lt
  have hhigh := hdigit _ (by omega) _ (by omega) h.1
  have hlow := hdigit _ (Nat.mod_lt _ (by decide)) _ (Nat.mod_lt _ (by decide)) h.2
  exact UInt8.toNat_inj.mp (by omega)

theorem digest_of_hex {message message' : List UInt8} (h : hex message = hex message') :
    digest message = digest message' := by
  have hbytes : ∀ {bs cs : List UInt8}, bs.flatMap hexByte = cs.flatMap hexByte → bs = cs := by
    intro bs
    induction bs with
    | nil =>
        intro cs h
        cases cs with
        | nil => rfl
        | cons c cs => cases h
    | cons b bs ih =>
        intro cs h
        cases cs with
        | nil => cases h
        | cons c cs =>
            rcases List.append_inj h rfl with ⟨hfirst, hrest⟩
            rw [hexByte_inj hfirst, ih hrest]
  have hlist := congrArg String.toList h
  rw [hex, hex, String.toList_ofList, String.toList_ofList] at hlist
  exact hbytes hlist

/-- Texts that do not collide are told apart by their digests. -/
theorem Separates.eq {s t : String} (hapart : Separates s t) (h : digestHex s = digestHex t) :
    s = t :=
  Text.toBytes_inj (hapart (digest_of_hex h))

end Sha256

/-- The key of a read determines its table, its statement and its bindings, as far as no digests
    collide and values show in their literals. -/
theorem queryKey_determines {table table' sql sql' : String} {b b' : Binds}
    (hnames : ∀ e ∈ b.entries, IsBindName e.1) (hnames' : ∀ e ∈ b'.entries, IsBindName e.1)
    (htable : Sha256.Separates table table')
    (hmaterial : Sha256.Separates (queryMaterial sql b) (queryMaterial sql' b'))
    (h : queryKey table sql b = queryKey table' sql' b') :
    table = table' ∧ sql = sql' ∧ b.shown = b'.shown := by
  rcases queryKey_eq_iff.mp h with ⟨htables, hmaterials⟩
  exact ⟨htable.eq htables, queryMaterial_inj hnames hnames' (hmaterial.eq hmaterials)⟩

/-- A value bound to one name. -/
def Binds.single (v : Value) : Binds where
  entries := [(":a", v)]

theorem Binds.single_names (v : Value) : ∀ e ∈ (Binds.single v).entries, IsBindName e.1 := by
  intro e he
  rw [List.mem_singleton.mp he]
  exact ⟨['a'], show ":a".toList = _ by decide, List.all_eq_true.mp (by decide)⟩

/-- A statement that looks as if a binding followed. -/
def openStatement : String := "SELECT 1;\n:a='"

-- A quote and a line break are bound, once as a text and once as bytes.
theorem queryKey_determines_quote :
    (∀ e ∈ (Binds.single (.text "'\n")).entries, IsBindName e.1)
      ∧ (∀ e ∈ (Binds.single (.bytes [0x27, 0x0a])).entries, IsBindName e.1)
      ∧ Sha256.Separates "t" "t"
      ∧ Sha256.Separates (queryMaterial openStatement (.single (.text "'\n")))
          (queryMaterial openStatement (.single (.bytes [0x27, 0x0a])))
      ∧ queryKey "t" openStatement (.single (.text "'\n"))
          = queryKey "t" openStatement (.single (.bytes [0x27, 0x0a]))
      ∧ (Binds.single (.text "'\n")).shown = (Binds.single (.bytes [0x27, 0x0a])).shown := by
  have hbytes : Text.ofBytesLossy [0x27, 0x0a] = "'\n" := by
    simp [Text.ofBytesLossy, Text.decodeLossy, Text.sequenceLength?]
  have hliteral : (Value.text "'\n").literal = (Value.bytes [0x27, 0x0a]).literal :=
    (congrArg Value.quotedLiteral hbytes).symm
  have hmaterial : queryMaterial openStatement (.single (.text "'\n"))
      = queryMaterial openStatement (.single (.bytes [0x27, 0x0a])) := by
    simp only [queryMaterial, Binds.fingerprint, Binds.single, List.map_cons, List.map_nil,
      hliteral]
  have hkey : queryKey "t" openStatement (.single (.text "'\n"))
      = queryKey "t" openStatement (.single (.bytes [0x27, 0x0a])) := by
    rw [queryKey, queryKey, hmaterial]
  have hseparates : Sha256.Separates (queryMaterial openStatement (.single (.text "'\n")))
      (queryMaterial openStatement (.single (.bytes [0x27, 0x0a]))) :=
    fun _ => by rw [hmaterial]
  exact ⟨Binds.single_names _, Binds.single_names _, fun _ => rfl, hseparates, hkey,
    (queryKey_determines (Binds.single_names _) (Binds.single_names _) (fun _ => rfl) hseparates
      hkey).2.2⟩

end SqlMapper
