import Mathlib.Algebra.GroupWithZero.Nat
import SqlMapper.Proofs.Cache.Keys
import SqlMapper.Proofs.Registry.Handles
import SqlMapper.Proofs.Text.Utf8

/-!
# What a Fingerprint Tells

How far the digest of parameters determines them.

Each parameter is digested with a zero byte behind it as an end mark. A text may
hold the character that is such a byte, so the marks do not show where one
parameter ends and the next begins: a part of a user name behind a zero
character may as well be the beginning of a password. What is digested does tell
how many zero characters there are in all, and whoever knows how many are in
each parameter can tell the parameters. So parameters that share a digest are
the same, or zero characters are distributed over them in different ways, which
takes one in each of the two.

## Main definitions

* `Config.zeros`: How many zero characters each parameter holds.
* `Config.Shifted`: The same number of zero characters, in different places.
* `Config.Separated`: Parameters whose digests do not collide.

## Theorems

* `marked_inj`: Texts with marks behind them can be told if the marks in them are counted.
* `fingerprint_cases`: Parameters with one digest are the same or shifted.
* `fingerprint_determines`: So are those for which a registry gives one connection.
* `connection_of_another`: A registry gives the connection for shifted parameters.
-/

namespace SqlMapper

namespace Text

/-- Of two ways to cut a text at a mark, the one with as many marks in front is the same. -/
theorem cut_of_count {mark : Char} {cs cs' ds ds' : List Char}
    (h : cs ++ mark :: ds = cs' ++ mark :: ds') (hcount : cs.count mark = cs'.count mark) :
    cs = cs' ∧ ds = ds' := by
  have hlonger : ∀ {short long between rest rest' : List Char}, long = short ++ between →
      mark :: rest = between ++ mark :: rest' → long.count mark = short.count mark →
        between = [] := by
    intro short long between rest rest' hlong hrest hsame
    cases between with
    | nil => rfl
    | cons c between =>
        rw [hlong, List.count_append, ← (List.cons.inj hrest).1, List.count_cons_self] at hsame
        omega
  rcases List.append_eq_append_iff.mp h with ⟨between, hlong, hrest⟩ | ⟨between, hlong, hrest⟩
  · have hnil := hlonger hlong hrest hcount.symm
    subst hnil
    exact ⟨(hlong.trans (List.append_nil _)).symm, (List.cons.inj hrest).2⟩
  · have hnil := hlonger hlong hrest hcount
    subst hnil
    exact ⟨hlong.trans (List.append_nil _), (List.cons.inj hrest).2.symm⟩

/-- Texts one after the other, each with a mark behind it. -/
def marked (mark : Char) (parts : List (List Char)) : List Char :=
  parts.flatMap (· ++ [mark])

/-- Texts with marks behind them can be told if the marks in them are counted. -/
theorem marked_inj {mark : Char} {parts parts' : List (List Char)}
    (h : marked mark parts = marked mark parts')
    (hcount : parts.map (List.count mark) = parts'.map (List.count mark)) : parts = parts' := by
  induction parts generalizing parts' with
  | nil => exact (List.map_eq_nil_iff.mp hcount.symm).symm
  | cons part parts ih =>
      cases parts' with
      | nil => cases hcount
      | cons part' parts' =>
          rw [List.map_cons, List.map_cons, List.cons.injEq] at hcount
          simp only [marked, List.flatMap_cons, List.append_assoc, List.singleton_append] at h
          rcases cut_of_count h hcount.1 with ⟨hpart, hrest⟩
          rw [hpart, ih hrest hcount.2]

theorem count_marked (mark : Char) (parts : List (List Char)) :
    (marked mark parts).count mark = (parts.map (List.count mark)).sum + parts.length := by
  induction parts with
  | nil => rfl
  | cons part parts ih =>
      rw [marked] at ih
      rw [marked, List.flatMap_cons, List.count_append, ih, List.count_append,
        List.count_singleton_self, List.map_cons, List.sum_cons, List.length_cons]
      omega

end Text

namespace Config

variable {c d : Config}

/-- How many zero characters each parameter holds, in the order of the fingerprint. -/
def zeros (c : Config) : List Nat :=
  c.parts.map fun part => part.toList.count '\x00'

/-- The same number of zero characters, in different places. -/
def Shifted (c d : Config) : Prop :=
  c.zeros.sum = d.zeros.sum ∧ c.zeros ≠ d.zeros

/-- Parameters whose digests do not collide. -/
def Separated (c d : Config) : Prop :=
  Sha256.digest c.material = Sha256.digest d.material → c.material = d.material

/-- What is digested, as characters. -/
theorem material_eq (c : Config) :
    c.material = Text.toBytes (.ofList (Text.marked '\x00' (c.parts.map String.toList))) := by
  rw [Text.toBytes_ofList, Text.marked, List.flatMap_map, List.flatMap_assoc, material]
  refine congrArg (List.flatMap · c.parts) (funext fun part => ?_)
  have hpart := Text.toBytes_ofList part.toList
  rw [String.ofList_toList] at hpart
  rw [List.flatMap_append, ← hpart]
  rfl

/-- The texts of parameters determine them. -/
theorem parts_inj (h : c.parts = d.parts) : c = d := by
  rcases c with ⟨host, dialect, port, username, password, database, charset⟩
  rcases d with ⟨host', dialect', port', username', password', database', charset'⟩
  simp only [parts, List.cons.injEq, and_true] at h
  rcases h with ⟨rfl, rfl, hport, rfl, rfl, rfl, rfl⟩
  have hnumber := congrArg (Nat.ofDigitChars 10 · 0) (String.ofList_injective hport)
  simp only [Nat.ofDigitChars_toDigits (b := 10) (by decide) (by decide)] at hnumber
  rw [UInt16.toNat_inj.mp hnumber]

/-- Parameters with one digest are the same, or zero characters are distributed over them in
    different ways. -/
theorem fingerprint_cases (hseparated : c.Separated d) (h : c.fingerprint = d.fingerprint) :
    c = d ∨ c.Shifted d := by
  have hmaterial := hseparated (Sha256.digest_of_hex h)
  rw [material_eq, material_eq] at hmaterial
  have hmarked := String.ofList_injective (Text.toBytes_inj hmaterial)
  have hzeros : ∀ c : Config, (c.parts.map String.toList).map (List.count '\x00') = c.zeros :=
    fun c => List.map_map
  by_cases hsame : c.zeros = d.zeros
  · have hparts := Text.marked_inj hmarked ((hzeros c).trans (hsame.trans (hzeros d).symm))
    exact Or.inl (parts_inj (List.map_injective_iff.mpr (fun _ _ => String.toList_inj.mp) hparts))
  · have hcount := congrArg (List.count '\x00') hmarked
    rw [Text.count_marked, Text.count_marked, hzeros, hzeros, List.length_map,
      List.length_map] at hcount
    exact Or.inr ⟨Nat.add_right_cancel hcount, hsame⟩

/-- Where zero characters are in different places, there are some. -/
theorem Shifted.holds (h : c.Shifted d) : 0 < c.zeros.sum := by
  refine Nat.pos_of_ne_zero fun hnone => h.2 ?_
  have hnone' : d.zeros.sum = 0 := h.1.symm.trans hnone
  have hall : ∀ c : Config, c.zeros.sum = 0 → c.zeros = List.replicate 7 0 := fun c hc =>
    List.eq_replicate_iff.mpr ⟨rfl, List.sum_eq_zero_iff_forall_eq_nat.mp hc⟩
  rw [hall c hnone, hall d hnone']

end Config

variable {η σ : Type}

/-- What a registry gives for parameters was opened for parameters with their digest. -/
theorem Registry.Orderly.fingerprint_obtain {known : Config → Prop} {r : Registry η σ}
    (h : r.Orderly known) {config : Config} (hknown : known config) (s : Surroundings σ)
    {c : Registered η σ} (hok : ((r.obtain config).run s).1.1 = .ok c) :
    known c.database.config ∧ c.database.config.fingerprint = config.fingerprint := by
  have hfound := r.registered_obtain config s hok
  have hafter := h.changes hknown (r.obtain_changes config s)
  exact ⟨hafter.known _ c hfound, hafter.keyed _ c hfound⟩

/-- Parameters share a digest, and with it a connection, only if they are the same or zero
    characters are in different places in the two. -/
theorem fingerprint_determines (base : Registry η σ) (calls : List (Registry.Call η σ))
    (config other : Config) (s : Surroundings σ) (hempty : base.connections = ∅)
    (hother : config.Separated other) (hcalls : ∀ call ∈ calls, config.Separated call.config) :
    let r := (base.after calls).run s
    (config.fingerprint = other.fingerprint → config = other ∨ config.Shifted other)
      ∧ (∀ c, ((r.1.obtain config).run r.2).1.1 = .ok c →
        config = c.database.config ∨ config.Shifted c.database.config)
      ∧ ∀ d, config.Shifted d → 0 < config.zeros.sum ∧ 0 < d.zeros.sum := by
  intro r
  refine ⟨Config.fingerprint_cases hother, fun c hok => ?_, fun d hshifted =>
    ⟨hshifted.holds, hshifted.1 ▸ hshifted.holds⟩⟩
  have horderly : r.1.Orderly config.Separated := (Registry.Orderly.empty hempty).after hcalls s
  rcases horderly.fingerprint_obtain (fun _ => rfl) r.2 hok with ⟨hseparated, hsame⟩
  exact Config.fingerprint_cases hseparated hsame.symm

/-- A zero character in the user name. -/
def Config.early : Config where
  username := "a\x00b"
  password := "c"
  database := "d"

/-- The same with the zero character in the password. -/
def Config.late : Config where
  username := "a"
  password := "b\x00c"
  database := "d"

set_option maxRecDepth 20000 in
/-- Two sets of parameters with a zero character each, in the same place. -/
theorem fingerprint_determines_early :
    let base : Registry Unit Script := { client := scriptedClient }
    let other : Config := { Config.early with database := "e" }
    let calls := [.obtain other, .obtain .early]
    let s : Surroundings Script := { world := { } }
    let r := (base.after calls).run s
    base.connections = ∅ ∧ Config.early.Separated other
      ∧ (∀ call ∈ calls, Config.early.Separated call.config)
      ∧ 0 < Config.early.zeros.sum
      ∧ (Config.early.fingerprint = other.fingerprint →
        Config.early = other ∨ Config.early.Shifted other)
      ∧ ∀ c, ((r.1.obtain .early).run r.2).1.1 = .ok c →
        .early = c.database.config ∨ Config.early.Shifted c.database.config := by
  intro base other calls s
  have hother : Config.early.Separated other := by
    have hne : Sha256.digest Config.early.material
        ≠ Sha256.digest { Config.early with database := "e" }.material := by decide +kernel
    exact fun h => absurd h hne
  have hcalls : ∀ call ∈ calls, Config.early.Separated call.config := by
    intro call hcall
    rcases List.mem_cons.mp hcall with rfl | hcall
    · exact hother
    · rw [List.mem_singleton.mp hcall]
      exact fun _ => rfl
  have hboth := fingerprint_determines base calls .early other s rfl hother hcalls
  exact ⟨rfl, hother, hcalls, by decide +kernel, hboth.1, hboth.2.1⟩

set_option maxRecDepth 20000 in
/-- A registry gives the connection for other parameters, which are digested as the same bytes. -/
theorem connection_of_another :
    let base : Registry Unit Script := { client := scriptedClient }
    let r := (base.after [.obtain .early]).run { world := { } }
    Config.early ≠ .late ∧ Config.early.material = Config.late.material
      ∧ Config.early.fingerprint = Config.late.fingerprint
      ∧ ((r.1.obtain .late).run r.2).1.1.toOption.map (·.database.config) = some .early
      ∧ ((r.1.obtain .late).run r.2).2.journal = [.connect "mysql" "127.0.0.1" "d"] := by
  decide +kernel

end SqlMapper
