import Mathlib.Data.Nat.Digits.Defs
import SqlMapper.Settings.Environment

/-!
# Acceptable Variables

Which values of an environment variable are taken, and for what.

Acceptance is a relation between the text that a variable is set to and the
value that it is taken for. It says nothing of how the text is read: a number is
a run of digits with the value that positional notation gives it, and the
readers are shown to take exactly those texts.

All variables together change settings field by field, and no field looks at the
variable of another.

## Main definitions

* `Decimal.Digits`, `Decimal.Writes`: A number in decimal.
* `Acceptance`: What a variable's value may be taken for.
* `Acceptance.text`, `Acceptance.lowered`, `Acceptance.any`, `Acceptance.word`,
  `Acceptance.port`, `Acceptance.lifetime`: The rules there are.
* `Acceptance.Sharp`: No text is taken for two values.

## Theorems

* `Decimal.naturalWithin?_eq_some_iff`: The numbers that are read.
* `readBool?_eq_some_iff`, `readPort?_eq_some_iff`, `readCount?_eq_some_iff`: What is read from a
  variable.
* `Overrides.connection_settings`, `Overrides.behaviour_settings`: The settings under an
  environment, field by field.
-/

namespace SqlMapper

namespace Decimal

/-- Characters are decimal digits, at least one, and a number is their value. -/
def Digits (cs : List Char) (n : Nat) : Prop :=
  ∃ ds : List Nat, ds ≠ [] ∧ (∀ d ∈ ds, d < 10) ∧ cs = ds.map Nat.digitChar ∧
    n = Nat.ofDigits 10 ds.reverse

/-- A text is a number in decimal, with or without a plus sign. -/
def Writes (s : String) (n : Nat) : Prop :=
  Digits s.toList n ∨ ∃ cs, s.toList = '+' :: cs ∧ Digits cs n

theorem digit?_eq_some_iff {c : Char} {d : Nat} :
    digit? c = some d ↔ d < 10 ∧ c = Nat.digitChar d := by
  have hzero : '0'.toNat = 48 := rfl
  have hnine : '9'.toNat = 57 := rfl
  have hrange : '0' ≤ c ∧ c ≤ '9' ↔ 48 ≤ c.toNat ∧ c.toNat ≤ 57 := by
    simp only [Char.le_def, UInt32.le_iff_toNat_le, ← hzero, ← hnine]
    rfl
  simp only [digit?, hrange, Option.ite_none_right_eq_some, Option.some.injEq, hzero]
  constructor
  · rintro ⟨hc, rfl⟩
    refine ⟨by omega, Char.toNat_inj.mp ?_⟩
    rw [Nat.toNat_digitChar_of_lt_ten (by omega)]
    omega
  · rintro ⟨hd, rfl⟩
    rw [Nat.toNat_digitChar_of_lt_ten hd]
    omega

/-- The digits that were read already stand, as one number, in front of the others. -/
theorem digitsFrom?_eq_some_iff {high n : Nat} {cs : List Char} :
    digitsFrom? high cs = some n ↔
      ∃ ds : List Nat, (∀ d ∈ ds, d < 10) ∧ cs = ds.map Nat.digitChar ∧
        n = Nat.ofDigits 10 (ds.reverse ++ [high]) := by
  induction cs generalizing high with
  | nil =>
      simp only [digitsFrom?, Option.some.injEq]
      constructor
      · rintro rfl
        exact ⟨[], nofun, rfl, Nat.ofDigits_singleton.symm⟩
      · rintro ⟨ds, -, hds, rfl⟩
        rw [List.map_eq_nil_iff.mp hds.symm]
        exact Nat.ofDigits_singleton.symm
  | cons c rest ih =>
      have hstep (d : Nat) (ds : List Nat) :
          Nat.ofDigits 10 ((d :: ds).reverse ++ [high]) =
            Nat.ofDigits 10 (ds.reverse ++ [high * 10 + d]) := by
        simp only [List.reverse_cons, List.append_assoc, Nat.ofDigits_append, List.cons_append,
          List.nil_append, Nat.ofDigits_cons, Nat.ofDigits_nil]
        congr 2
        omega
      simp only [digitsFrom?, Option.bind_eq_bind, Option.bind_eq_some_iff, digit?_eq_some_iff, ih]
      constructor
      · rintro ⟨d, ⟨hd, rfl⟩, ds, hds, rfl, rfl⟩
        exact ⟨d :: ds, List.forall_mem_cons.mpr ⟨hd, hds⟩, rfl, (hstep d ds).symm⟩
      · rintro ⟨ds, hds, hcs, rfl⟩
        rcases ds with _ | ⟨d, ds⟩
        · exact absurd hcs nofun
        · rcases List.cons.inj hcs with ⟨rfl, rfl⟩
          have hds := List.forall_mem_cons.mp hds
          exact ⟨d, ⟨hds.1, rfl⟩, ds, hds.2, rfl, hstep d ds⟩

theorem digits?_eq_some_iff {n : Nat} {cs : List Char} : digits? cs = some n ↔ Digits cs n := by
  cases cs with
  | nil =>
      refine ⟨nofun, ?_⟩
      rintro ⟨ds, hne, -, hds, -⟩
      exact absurd (List.map_eq_nil_iff.mp hds.symm) hne
  | cons c rest =>
      simp only [digits?, digitsFrom?_eq_some_iff, Nat.ofDigits_append_zero, Digits]
      refine exists_congr fun ds => (and_iff_right_of_imp ?_).symm
      rintro ⟨-, hds, -⟩ rfl
      exact absurd hds nofun

theorem Digits.head_ne_plus {n : Nat} {cs : List Char} : ¬ Digits ('+' :: cs) n := by
  rintro ⟨ds, -, hlt, hcs, -⟩
  rcases ds with _ | ⟨d, ds⟩
  · exact absurd hcs nofun
  · have hd := (List.cons.inj hcs).1
    have hnum := congrArg Char.toNat hd
    rw [Nat.toNat_digitChar_of_lt_ten (hlt d List.mem_cons_self)] at hnum
    exact absurd hnum (by simp; omega)

theorem natural?_eq_some_iff {n : Nat} {s : String} : natural? s.toList = some n ↔ Writes s n := by
  simp only [Writes]
  generalize s.toList = cs
  rw [natural?.eq_def]
  split
  next rest =>
    rw [digits?_eq_some_iff]
    constructor
    · exact fun h => .inr ⟨rest, rfl, h⟩
    · rintro (h | ⟨_, hcs, h⟩)
      · exact absurd h Digits.head_ne_plus
      · rwa [(List.cons.inj hcs).2]
  next hplus =>
    rw [digits?_eq_some_iff]
    constructor
    · exact .inl
    · rintro (h | ⟨rest, hcs, -⟩)
      · exact h
      · exact absurd hcs (hplus rest)

/-- The numbers that are read are those in decimal between the bounds. -/
theorem naturalWithin?_eq_some_iff {least most n : Nat} {s : String} :
    naturalWithin? least most s = some n ↔ Writes s n ∧ least ≤ n ∧ n ≤ most := by
  simp only [naturalWithin?, Option.filter_eq_some_iff, natural?_eq_some_iff, Bool.and_eq_true,
    decide_eq_true_eq]

/-- Numbers of a type that holds all up to the upper bound. -/
theorem map_naturalWithin?_eq_some_iff {α : Type} {toNat : α → Nat} {ofNat : Nat → α}
    {least most : Nat} (hof : ∀ n ≤ most, toNat (ofNat n) = n) (hto : ∀ a, ofNat (toNat a) = a)
    {s : String} {a : α} :
    (naturalWithin? least most s).map ofNat = some a ↔
      Writes s (toNat a) ∧ least ≤ toNat a ∧ toNat a ≤ most := by
  simp only [Option.map_eq_some_iff, naturalWithin?_eq_some_iff]
  constructor
  · rintro ⟨n, h, rfl⟩
    rwa [hof n h.2.2]
  · exact fun h => ⟨toNat a, h, hto a⟩

end Decimal

/-- What a variable's value may be taken for. -/
abbrev Acceptance (α : Type) :=
  String → α → Prop

namespace Acceptance

/-- A text that is not empty. -/
def text : Acceptance String :=
  fun v a => v ≠ "" ∧ a = v

/-- A text that is not empty, in lower case. -/
def lowered : Acceptance String :=
  fun v a => v ≠ "" ∧ a = Text.lowercase v

/-- Any text. -/
def any : Acceptance String :=
  fun v a => a = v

/-- A word for a truth value, in any case. -/
def word : Acceptance Bool :=
  fun v b => Text.lowercase v ∈
    if b then ["true", "1", "yes", "on"] else ["false", "0", "no", "off"]

/-- A number that a port can have. -/
def port : Acceptance UInt16 :=
  fun v a => Decimal.Writes v a.toNat ∧ 1 ≤ a.toNat ∧ a.toNat ≤ 65535

/-- A number of seconds, thirty days at most. -/
def lifetime : Acceptance UInt64 :=
  fun v a => Decimal.Writes v a.toNat ∧ 1 ≤ a.toNat ∧ a.toNat ≤ 2592000

end Acceptance

theorem readBool?_eq_some_iff {v : String} {b : Bool} :
    readBool? v = some b ↔ Acceptance.word v b := by
  simp only [readBool?, Acceptance.word]
  split
  next hyes =>
    have hyes := List.contains_iff_mem.mp hyes
    cases b with
    | true => simp only [if_true, hyes]
    | false =>
        -- No word stands for both truth values.
        simp only [List.mem_cons, List.not_mem_nil, or_false] at hyes
        rcases hyes with h | h | h | h <;> rw [h] <;> decide
  next hyes =>
    have hyes := mt List.contains_iff_mem.mpr hyes
    split
    next hno =>
      have hno := List.contains_iff_mem.mp hno
      cases b with
      | true => simp only [hyes, if_true, Option.some.injEq, Bool.false_eq_true]
      | false => simpa only [Bool.false_eq_true, if_false, true_iff] using hno
    next hno =>
      have hno := mt List.contains_iff_mem.mpr hno
      cases b with
      | true => simpa only [if_true, reduceCtorEq, false_iff] using hyes
      | false => simpa only [Bool.false_eq_true, if_false, reduceCtorEq, false_iff] using hno

theorem readPort?_eq_some_iff {v : String} {a : UInt16} :
    readPort? 1 65535 v = some a ↔ Acceptance.port v a :=
  Decimal.map_naturalWithin?_eq_some_iff
    (fun _ h => UInt16.toNat_ofNat_of_lt' (Nat.lt_succ_of_le h)) (fun _ => UInt16.ofNat_toNat)

theorem readCount?_eq_some_iff {v : String} {a : UInt64} :
    readCount? 1 longestTtl v = some a ↔ Acceptance.lifetime v a :=
  Decimal.map_naturalWithin?_eq_some_iff
    (fun _ h => UInt64.toNat_ofNat_of_lt' (Nat.lt_of_le_of_lt h (by decide)))
    (fun _ => UInt64.ofNat_toNat)

theorem Environment.text?_eq_some_iff {env : Environment} {name : String} {a : String} :
    env.text? name = some a ↔ ∃ v, env.get? name = some v ∧ Acceptance.text v a := by
  simp only [Environment.text?, Option.filter_eq_some_iff, bne_iff_ne, Acceptance.text]
  constructor
  · exact fun ⟨hget, hne⟩ => ⟨a, hget, hne, rfl⟩
  · rintro ⟨v, hget, hne, rfl⟩
    exact ⟨hget, hne⟩

theorem Environment.lowered_eq_some_iff {env : Environment} {name : String} {a : String} :
    (env.text? name).map Text.lowercase = some a ↔
      ∃ v, env.get? name = some v ∧ Acceptance.lowered v a := by
  simp only [Option.map_eq_some_iff, Environment.text?_eq_some_iff, Acceptance.text,
    Acceptance.lowered]
  constructor
  · rintro ⟨v, ⟨_, hget, hne, rfl⟩, rfl⟩
    exact ⟨v, hget, hne, rfl⟩
  · rintro ⟨v, hget, hne, rfl⟩
    exact ⟨v, ⟨v, hget, hne, rfl⟩, rfl⟩

/-! ### Unambiguous acceptance -/

namespace Acceptance

/-- No text is taken for two values. -/
def Sharp {α : Type} (accepts : Acceptance α) : Prop :=
  ∀ v a b, accepts v a → accepts v b → a = b

theorem Sharp.of_read {α : Type} {accepts : Acceptance α} {read : String → Option α}
    (hread : ∀ v a, read v = some a ↔ accepts v a) : accepts.Sharp :=
  fun v a b ha hb => Option.some.inj (((hread v a).mpr ha).symm.trans ((hread v b).mpr hb))

theorem text_sharp : text.Sharp := fun _ _ _ ha hb => ha.2.trans hb.2.symm

theorem lowered_sharp : lowered.Sharp := fun _ _ _ ha hb => ha.2.trans hb.2.symm

theorem any_sharp : any.Sharp := fun _ _ _ ha hb => ha.trans hb.symm

theorem word_sharp : word.Sharp := .of_read fun _ _ => readBool?_eq_some_iff

theorem port_sharp : port.Sharp := .of_read fun _ _ => readPort?_eq_some_iff

theorem lifetime_sharp : lifetime.Sharp := .of_read fun _ _ => readCount?_eq_some_iff

end Acceptance

/-! ### Settings under an environment -/

namespace Overrides

variable (o : Overrides) (env : Environment)

/-- A text is set in its field in some form, and an empty one leaves the field as it is. -/
theorem withText_settings_map {name : String} (form : String → String)
    (set : Settings → String → Settings) (get : Settings → String) (hset : ∀ s, set s (get s) = s) :
    (o.withText env name fun s v => set s (form v)).settings =
      set o.settings (((env.text? name).map form).getD (get o.settings)) := by
  unfold withText
  split
  next h => rw [h, Option.map_some, Option.getD_some]
  next h => rw [h, Option.map_none, Option.getD_none, hset]

/-- A text is set in its field as it is. -/
theorem withText_settings {name : String} {set : Settings → String → Settings}
    (get : Settings → String) (hset : ∀ s, set s (get s) = s) :
    (o.withText env name set).settings =
      set o.settings ((env.text? name).getD (get o.settings)) := by
  simpa only [id, Option.map_id_fun] using o.withText_settings_map env id set get hset

/-- A value that can be read is set in its field, and another leaves the field as it is. -/
theorem withRead_settings {α : Type} {kind name : String} {read : String → Option α}
    {set : Settings → α → Settings} (get : Settings → α) (hset : ∀ s, set s (get s) = s) :
    (o.withRead env kind name read set).settings =
      set o.settings (((env.get? name).bind read).getD (get o.settings)) := by
  unfold withRead
  split
  next h => rw [h, Option.bind_none, Option.getD_none, hset]
  next h =>
    rw [h, Option.bind_some]
    split
    next hread => rw [hread, Option.getD_some]
    next hread => rw [hread, Option.getD_none, hset]

/-- The parameters of the connection, field by field. -/
theorem connection_settings :
    (o.connection env).settings =
      { o.settings with
        database :=
          { host := (env.text? "SABLE_DB_HOST").getD o.settings.database.host
            dialect :=
              ((env.text? "SABLE_DB_DIALECT").map Text.lowercase).getD o.settings.database.dialect
            port :=
              ((env.get? "SABLE_DB_PORT").bind (readPort? 1 65535)).getD o.settings.database.port
            username := (env.text? "SABLE_DB_USER").getD o.settings.database.username
            password :=
              ((env.get? "SABLE_DB_PASSWORD").bind some).getD o.settings.database.password
            database := (env.text? "SABLE_DB_NAME").getD o.settings.database.database
            charset := (env.text? "SABLE_DB_CHARSET").getD o.settings.database.charset } } := by
  unfold connection
  -- From the last variable back to the first.
  rw [withText_settings _ _ (·.database.charset), withText_settings _ _ (·.database.database),
    withRead_settings _ _ (·.database.password), withText_settings _ _ (·.database.username),
    withRead_settings _ _ (·.database.port),
    withText_settings_map _ _ Text.lowercase
      (fun s v => { s with database := { s.database with dialect := v } }) (·.database.dialect),
    withText_settings _ _ (·.database.host)]
  all_goals exact fun _ => rfl

/-- The remaining settings, field by field. -/
theorem behaviour_settings :
    (o.behaviour env).settings =
      { o.settings with
        debug := ((env.get? "SABLE_DEBUG").bind readBool?).getD o.settings.debug
        cache :=
          { enabled :=
              ((env.get? "SABLE_CACHE_ENABLED").bind readBool?).getD o.settings.cache.enabled
            ttlSecs :=
              ((env.get? "SABLE_CACHE_TTL_SECS").bind (readCount? 1 longestTtl)).getD
                o.settings.cache.ttlSecs }
        logging :=
          { o.settings.logging with
            level := (env.text? "SABLE_LOG_LEVEL").getD o.settings.logging.level } } := by
  unfold behaviour
  rw [withText_settings _ _ (·.logging.level), withRead_settings _ _ (·.cache.ttlSecs),
    withRead_settings _ _ (·.cache.enabled), withRead_settings _ _ (·.debug)]
  all_goals exact fun _ => rfl

end Overrides

end SqlMapper
