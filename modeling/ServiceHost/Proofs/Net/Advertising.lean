/-
  ServiceHost.Proofs.Net.Advertising — which name a bind address advertises, and which
  address it names.

  A bind address that resolves is written as a literal, plain or in brackets, and a port
  (`resolve_written`). The readers of addresses know every spelling of every literal, but
  the advertised name goes by the text: it is the literal as it is written, or the name of
  the machine for three literals that stand for every address (`hostName_written`). All
  three do stand for every address, so an address that is specific advertises its literal.
  Other spellings stand for every address as well, and are advertised as they are
  (`hostName_resolved`, `zeros_advertised`).
-/

import ServiceHost.Proofs.Net.Resolution

namespace ServiceHost.Net

open ServiceHost.Text

/-! ## What readers go over -/

def isPlain (c : Char) : Bool := c ≠ '[' && c ≠ ']'

/-- A reader has gone over plain characters, up to `rest`. -/
def Passes (cs rest : List Char) : Prop := ∃ used, cs = used ++ rest ∧ ∀ c ∈ used, isPlain c = true

theorem Passes.refl (cs : List Char) : Passes cs cs := ⟨[], rfl, List.forall_mem_nil _⟩

theorem Passes.trans {cs mid rest : List Char} (h : Passes cs mid) (h' : Passes mid rest) : Passes cs rest := by
  obtain ⟨used, rfl, hused⟩ := h
  obtain ⟨used', rfl, hused'⟩ := h'
  exact ⟨used ++ used', (List.append_assoc ..).symm, List.forall_mem_append.2 ⟨hused, hused'⟩⟩

theorem passes_takeWhile {p : Char → Bool} (hp : ∀ c, p c = true → isPlain c = true) (cs : List Char) :
    Passes cs (cs.drop (cs.takeWhile p).length) :=
  ⟨cs.takeWhile p, (List.prefix_iff_eq_append.1 (List.takeWhile_prefix p)).symm,
    fun c hc => hp c (List.mem_takeWhile_imp hc)⟩

theorem isPlain_of_isHexDigit {c : Char} (h : isHexDigit c = true) : isPlain c = true := by
  rw [isPlain, Bool.and_eq_true, decide_eq_true_iff, decide_eq_true_iff]
  constructor
  · rintro rfl
    exact absurd h (by decide)
  · rintro rfl
    exact absurd h (by decide)

theorem isPlain_of_isDigit {c : Char} (h : c.isDigit = true) : isPlain c = true :=
  isPlain_of_isHexDigit (Ip.isHexDigit_of_isDigit h)

namespace Ip

variable {cs rest : List Char}

theorem expect_eq_some {c : Char} (h : expect c cs = some rest) : cs = c :: rest := by
  cases cs with
  | nil => cases h
  | cons d cs =>
    rw [expect] at h
    split at h
    · next hd =>
      cases h
      rw [hd]
    · cases h

theorem expect_passes {c : Char} (hc : isPlain c = true) (h : expect c cs = some rest) : Passes cs rest :=
  ⟨[c], expect_eq_some h, by simpa using hc⟩

theorem octet?_passes {n : Nat} (h : octet? cs = some (n, rest)) : Passes cs rest := by
  obtain rfl := octet?_rest h
  exact ⟨cs.takeWhile Char.isDigit, List.takeWhile_append_dropWhile.symm,
    fun c hc => isPlain_of_isDigit (List.mem_takeWhile_imp hc)⟩

theorem dotted?_passes {os : List Nat} (h : dotted? cs = some (os, rest)) : Passes cs rest := by
  simp only [dotted?, Option.bind_eq_bind, Option.bind_eq_some_iff, Prod.exists] at h
  obtain ⟨a, r₁, ha, r₂, h₂, b, r₃, hb, r₄, h₄, c, r₅, hc, r₆, h₆, d, r₇, hd, hos⟩ := h
  cases hos
  have hdot {cs rest : List Char} (h : expect '.' cs = some rest) : Passes cs rest := expect_passes (by decide) h
  have hfront : Passes cs r₄ := (octet?_passes ha).trans ((hdot h₂).trans ((octet?_passes hb).trans (hdot h₄)))
  exact hfront.trans ((octet?_passes hc).trans ((hdot h₆).trans (octet?_passes hd)))

theorem group?_passes {n : Nat} (h : group? cs = some (n, rest)) : Passes cs rest := by
  unfold group? at h
  dsimp only at h
  split at h
  · cases h
  · obtain ⟨m, -, hm⟩ := Option.bind_eq_some_iff.1 h
    cases hm
    exact passes_takeWhile (fun c hc => isPlain_of_isHexDigit hc) cs

theorem groups_passes (limit : Nat) (first : Bool) (cs : List Char) : Passes cs (groups limit first cs).2.2 := by
  induction limit generalizing first cs with
  | zero => exact .refl cs
  | succ limit ih =>
    have hbelow {below : List Char} (h : (if first then some cs else expect ':' cs) = some below) :
        Passes cs below := by
      cases first with
      | true =>
        cases h
        exact .refl cs
      | false => exact expect_passes (by decide) h
    rw [groups]
    split
    · exact .refl cs
    · next below hsome =>
      split
      · next hdotted =>
        split at hdotted
        · cases hdotted
        · exact (hbelow hsome).trans (dotted?_passes hdotted)
      · split
        · next hgroup => exact ((hbelow hsome).trans (group?_passes hgroup)).trans (ih false _)
        · exact .refl cs

theorem v6?_passes {gs : List Nat} (h : v6? cs = some (gs, rest)) : Passes cs rest := by
  have hhead := groups_passes 8 true cs
  have hcolon {cs rest : List Char} (h : expect ':' cs = some rest) : Passes cs rest := expect_passes (by decide) h
  rw [v6?] at h
  generalize groups 8 true cs = front at h hhead
  obtain ⟨head, mixed, behind⟩ := front
  dsimp only at h hhead
  split at h
  · cases h
    exact hhead
  · split at h
    · cases h
    · obtain ⟨r, hr, h⟩ := Option.bind_eq_some_iff.1 h
      obtain ⟨back, hback, h⟩ := Option.bind_eq_some_iff.1 h
      cases h
      exact (hhead.trans ((hcolon hr).trans (hcolon hback))).trans (groups_passes ..)

theorem ofGroups?_plain {ip : Ip} (h : ofGroups? cs = some ip) : ∀ c ∈ cs, isPlain c = true := by
  unfold ofGroups? at h
  split at h
  · next gs hread =>
    obtain ⟨used, rfl, hused⟩ := v6?_passes hread
    rwa [List.append_nil]
  · cases h

end Ip

theorem SocketAddr.scope?_passes {cs rest : List Char} {n : Nat} (h : scope? cs = some (n, rest)) :
    Passes cs rest := by
  unfold scope? at h
  split at h
  · next ds =>
    obtain ⟨m, -, hm⟩ := Option.bind_eq_some_iff.1 h
    split at hm
    · cases hm
      have hpercent : Passes ('%' :: ds) ds := ⟨['%'], rfl, List.forall_mem_singleton.2 (by decide)⟩
      exact hpercent.trans (passes_takeWhile (fun c hc => isPlain_of_isDigit hc) ds)
    · cases hm
  · cases h
    exact .refl cs

theorem SocketAddr.port?_plain {cs : List Char} {n : Nat} (h : port? cs = some n) : ':' ∉ cs := by
  intro hmem
  rw [port?, readDigits_eq_none hmem (by decide)] at h
  cases h

namespace Bind

/-- A digit of a legacy address, or what stands around its parts. -/
def isLegacy (c : Char) : Bool := isHexDigit c || c = 'x' || c = 'X' || c = '.'

theorem foldlM_hex {f : Nat → Nat → Option Nat} {ds : List Char} {init n : Nat}
    (h : ds.foldlM (fun n c => (hexValue? c).bind (f n)) init = some n) : ∀ c ∈ ds, isHexDigit c = true := by
  induction ds generalizing init with
  | nil => exact List.forall_mem_nil _
  | cons c ds ih =>
    obtain ⟨m, hm, hrest⟩ := Option.bind_eq_some_iff.1 h
    obtain ⟨v, hv, -⟩ := Option.bind_eq_some_iff.1 hm
    have hc : isHexDigit c = true := by rw [isHexDigit, hv]; rfl
    exact List.forall_mem_cons.2 ⟨hc, ih hrest⟩

theorem legacyPart?_legacy {cs : List Char} {n : Nat} (h : legacyPart? cs = some n) :
    ∀ c ∈ cs, isLegacy c = true := by
  have hradix (base : Nat) {ds : List Char} (h : (if ds.isEmpty then none else
      ds.foldlM (fun n c => (hexValue? c).bind fun d => if d < base then some (base * n + d) else none) 0) = some n) :
      ∀ c ∈ ds, isLegacy c = true := by
    split at h
    · cases h
    · intro c hc
      rw [isLegacy, foldlM_hex h c hc]
      rfl
  unfold legacyPart? at h
  dsimp only at h
  split at h
  · exact List.forall_mem_cons.2 ⟨by decide, List.forall_mem_cons.2 ⟨by decide, hradix 16 h⟩⟩
  · exact List.forall_mem_cons.2 ⟨by decide, List.forall_mem_cons.2 ⟨by decide, hradix 16 h⟩⟩
  · split at h
    · next hds =>
      rw [List.isEmpty_iff.1 hds]
      exact List.forall_mem_singleton.2 (by decide)
    · next hds => exact List.forall_mem_cons.2 ⟨by decide, hradix 8 (by rwa [if_neg hds])⟩
  · exact hradix 10 h

theorem exists_of_mapM {α β : Type} {f : α → Option β} {xs : List α} {ys : List β} (h : xs.mapM f = some ys) :
    ∀ x ∈ xs, ∃ y, f x = some y := by
  induction xs generalizing ys with
  | nil => exact List.forall_mem_nil _
  | cons x xs ih =>
    rw [List.mapM_cons] at h
    obtain ⟨y, hy, h⟩ := Option.bind_eq_some_iff.1 h
    obtain ⟨ys, hys, -⟩ := Option.bind_eq_some_iff.1 h
    exact List.forall_mem_cons.2 ⟨⟨y, hy⟩, ih hys⟩

theorem legacy?_legacy {host : List Char} {ip : Ip} (h : legacy? host = some ip) :
    ∀ c ∈ host, isLegacy c = true := by
  obtain ⟨parts, hparts, -⟩ := Option.bind_eq_some_iff.1 h
  intro c hc
  rcases mem_cutAll '.' hc with rfl | ⟨w, hw, hcw⟩
  · decide
  · obtain ⟨n, hn⟩ := exists_of_mapM hparts w hw
    exact legacyPart?_legacy hn c hcw

theorem isPlain_of_isLegacy {c : Char} (h : isLegacy c = true) : isPlain c = true := by
  simp only [isLegacy, Bool.or_eq_true, decide_eq_true_iff] at h
  rcases h with ((h | rfl) | rfl) | rfl
  · exact isPlain_of_isHexDigit h
  all_goals decide

/-! ## How a bind address is written -/

/-- A bind address as it is written: a plain literal, as it is or in brackets, and a port behind it. -/
structure IsWritten (addr literal port : List Char) : Prop where
  form : addr = literal ++ ':' :: port ∨ addr = '[' :: literal ++ ']' :: ':' :: port
  plain : ∀ c ∈ literal, isPlain c = true
  port : ':' ∉ port

theorem ofText?_written {s : String} {a : SocketAddr} (h : SocketAddr.ofText? s = some a) :
    ∃ literal port, IsWritten s.toList literal port := by
  unfold SocketAddr.ofText? at h
  split at h
  · next cs hs =>
    simp only [Option.bind_eq_bind, Option.bind_eq_some_iff, Prod.exists] at h
    obtain ⟨gs, r₁, hread, scope, r₂, hscope, r₃, h₃, port, hcolon, n, hport, -⟩ := h
    obtain ⟨literal, hcs, hplain⟩ := (Ip.v6?_passes hread).trans (SocketAddr.scope?_passes hscope)
    refine ⟨literal, port, .inr ?_, hplain, SocketAddr.port?_plain hport⟩
    rw [hs, hcs, Ip.expect_eq_some h₃, Ip.expect_eq_some hcolon]
    rfl
  · simp only [Option.bind_eq_bind, Option.bind_eq_some_iff, Prod.exists] at h
    obtain ⟨os, r₁, hread, port, hcolon, n, hport, -⟩ := h
    obtain ⟨literal, hcs, hplain⟩ := Ip.dotted?_passes hread
    refine ⟨literal, port, .inl ?_, hplain, SocketAddr.port?_plain hport⟩
    rw [hcs, Ip.expect_eq_some hcolon]

theorem lookup_eq_some {host : List Char} {ip : Ip}
    (h : ((legacy? host).orElse fun _ => Ip.ofGroups? host) = some ip) :
    (∀ c ∈ host, isLegacy c = true) ∨ Ip.ofGroups? host = some ip := by
  cases hlegacy : legacy? host with
  | some ip' => exact .inl (legacy?_legacy hlegacy)
  | none =>
    rw [hlegacy] at h
    exact .inr h

theorem exists_cutLast {sep : Char} {cs : List Char} (h : sep ∈ cs) : ∃ a b, cutLast sep cs = some (a, b) := by
  obtain ⟨b, a, hcs, hb⟩ := List.eq_append_cons_of_mem (List.mem_reverse.2 h)
  refine ⟨a.reverse, b.reverse, cutLast_eq_some_iff.2 ⟨?_, by simpa using hb⟩⟩
  rw [← List.reverse_reverse cs, hcs]
  simp

theorem resolve_colon {port : List Char} (h : ':' ∈ port) (a : SocketAddr) :
    resolve (String.ofList (':' :: port)) ≠ .ok a := by
  intro hresolve
  have hnumeric : IsNumeric "0.0.0.0".toList (.v4 [0, 0, 0, 0]) := .v4 ⟨0, 0, 0, 0⟩
  have hport : SocketAddr.port? port = none := by
    rw [SocketAddr.port?, readDigits_eq_none h (by decide)]
    rfl
  obtain ⟨host, p, hcut⟩ := exists_cutLast h
  obtain ⟨rfl, hp⟩ := cutLast_eq_some_iff.1 hcut
  have hall : cutLast ':' ("0.0.0.0".toList ++ ':' :: (host ++ ':' :: p)) = some ("0.0.0.0".toList ++ ':' :: host, p) :=
    cutLast_eq_some_iff.2 ⟨by simp, hp⟩
  have hgroups : Ip.ofGroups? ("0.0.0.0".toList ++ ':' :: host) = none := rfl
  have hnormal : normalized (String.ofList (':' :: (host ++ ':' :: p))) =
      String.ofList ("0.0.0.0".toList ++ ':' :: (host ++ ':' :: p)) := by
    rw [normalized, if_pos (by simp), String.ofList_append, String.ofList_toList]
  simp only [resolve, hnormal, SocketAddr.ofText?_numeric hnumeric, hport, String.toList_ofList, hall] at hresolve
  dsimp only [Option.map_none] at hresolve
  split at hresolve
  · cases hresolve
  · split at hresolve
    · next ip hread =>
      rcases lookup_eq_some hread with hlegacy | hread
      · have hcolon : isLegacy ':' = true := hlegacy ':' (by simp)
        exact absurd hcolon (by decide)
      · rw [hgroups] at hread
        cases hread
    · cases hresolve

theorem resolve_written {addr : String} {a : SocketAddr} (h : resolve addr = .ok a) :
    ∃ literal port, IsWritten addr.toList literal port := by
  by_cases hcolon : addr.toList.head? = some ':'
  · obtain ⟨port, haddr⟩ := List.head?_eq_some_iff.1 hcolon
    refine ⟨[], port, .inl haddr, List.forall_mem_nil _, fun hmem => ?_⟩
    rw [← String.ofList_toList (s := addr), haddr] at h
    exact resolve_colon hmem a h
  · unfold resolve at h
    rw [normalized_of_head hcolon] at h
    dsimp only at h
    split at h
    · next hread => exact ofText?_written hread
    · split at h
      · cases h
      · next host port hcut =>
        obtain ⟨haddr, hport⟩ := cutLast_eq_some_iff.1 hcut
        split at h
        · cases h
        · split at h
          · next ip hread =>
            refine ⟨host, port, .inl haddr, ?_, hport⟩
            rcases lookup_eq_some hread with hlegacy | hread
            · exact fun c hc => isPlain_of_isLegacy (hlegacy c hc)
            · exact Ip.ofGroups?_plain hread
          · cases h

/-! ## What it advertises -/

/-- The literals that advertise the name of the machine. -/
def IsEvery (literal : List Char) : Prop := literal = [] ∨ literal = "0.0.0.0".toList ∨ literal = "::".toList

theorem isWildcard_iff (literal : List Char) : isWildcard (String.ofList literal) = true ↔ IsEvery literal := by
  have htext (text : String) : String.ofList literal = text ↔ literal = text.toList := by
    constructor
    · rintro rfl
      exact String.toList_ofList.symm
    · rintro rfl
      exact String.ofList_toList
  simp only [isWildcard, IsEvery, Bool.or_eq_true, decide_eq_true_iff, or_assoc, htext]
  rfl

theorem split_written {addr : String} {literal port : List Char} (h : IsWritten addr.toList literal port) :
    split addr = (literal, port) := by
  have hfront : literal.dropWhile (· = '[') = literal := by
    refine dropWhile_eq_self_iff_head?.2 fun c hc => ?_
    have hplain := h.plain c (List.mem_of_head? hc)
    simp only [isPlain, Bool.and_eq_true, decide_eq_true_iff] at hplain
    exact decide_eq_false hplain.1
  have hback : dropEndWhile (· = ']') literal = literal := by
    refine dropEndWhile_eq_self_iff.2 fun c hc => ?_
    have hplain := h.plain c (List.mem_of_getLast? hc)
    simp only [isPlain, Bool.and_eq_true, decide_eq_true_iff] at hplain
    exact decide_eq_false hplain.2
  rcases h.form with hform | hform
  · have hcut : cutLast ':' addr.toList = some (literal, port) := cutLast_eq_some_iff.2 ⟨hform, h.port⟩
    rw [split, hcut]
    dsimp only
    rw [hfront, hback]
  · have hcut : cutLast ':' addr.toList = some ('[' :: literal ++ [']'], port) :=
      cutLast_eq_some_iff.2 ⟨by rw [hform]; simp, h.port⟩
    have hopen : ('[' :: literal ++ [']']).dropWhile (· = '[') = literal ++ [']'] := by
      rw [List.cons_append, List.dropWhile_cons_of_pos (by simp), List.dropWhile_append]
      split
      · next hempty =>
        rw [hfront] at hempty
        rw [List.isEmpty_iff.1 hempty]
        rfl
      · rw [hfront]
    have hclose : dropEndWhile (· = ']') (literal ++ [']']) = literal := by
      rw [dropEndWhile_eq_rdropWhile, List.rdropWhile_concat_pos _ _ _ (by simp), ← dropEndWhile_eq_rdropWhile, hback]
    rw [split, hcut]
    dsimp only
    rw [hopen, hclose]

theorem hostName_written {addr : String} {literal port : List Char} (h : IsWritten addr.toList literal port)
    (m : Machine) :
    (IsEvery literal → hostName m addr = m.name) ∧ (¬ IsEvery literal → hostName m addr = String.ofList literal) := by
  rw [hostName, split_written h]
  exact ⟨fun he => if_pos ((isWildcard_iff literal).2 he), fun he => if_neg fun hw => he ((isWildcard_iff literal).1 hw)⟩

/-! ## Which address it names -/

theorem resolve_bracket {cs : List Char} (h : Ip.v6? cs = none) (a : SocketAddr) :
    resolve (String.ofList ('[' :: cs)) ≠ .ok a := by
  intro hresolve
  have hnormal : normalized (String.ofList ('[' :: cs)) = String.ofList ('[' :: cs) :=
    normalized_of_head (by simp)
  have hread : SocketAddr.ofText? (String.ofList ('[' :: cs)) = none := by
    rw [SocketAddr.ofText?, String.toList_ofList]
    simp only [h]
    rfl
  simp only [resolve, hnormal, hread, String.toList_ofList] at hresolve
  split at hresolve
  · cases hresolve
  · next host port hcut =>
    obtain ⟨hcs, -⟩ := cutLast_eq_some_iff.1 hcut
    obtain ⟨inside, rfl⟩ : ∃ inside, host = '[' :: inside := by
      cases host with
      | nil => cases hcs
      | cons c inside => exact ⟨inside, by rw [(List.cons.inj hcs).1]⟩
    split at hresolve
    · cases hresolve
    · rw [legacy?_bracket, Ip.ofGroups?_bracket] at hresolve
      cases hresolve

/-- The three literals that advertise the machine do stand for every address. -/
theorem isUnspecified_of_isEvery {addr : String} {literal port : List Char} {a : SocketAddr}
    (h : IsWritten addr.toList literal port) (he : IsEvery literal) (hresolve : resolve addr = .ok a) :
    a.ip.isUnspecified = true := by
  have hliteral {host : List Char} {ip : Ip} (hhost : IsLiteral host ip) (haddr : addr.toList = host ++ ':' :: port)
      (hip : ip.isUnspecified = true) : a.ip.isUnspecified = true := by
    rw [← String.ofList_toList (s := addr), haddr, resolve_literal hhost h.port] at hresolve
    split at hresolve
    · cases hresolve
    · split at hresolve
      · cases hresolve
      · cases hresolve
        exact hip
  rcases h.form with hform | hform
  · rcases he with rfl | rfl | rfl
    · exact hliteral (.inl ⟨rfl, rfl⟩) hform rfl
    · exact hliteral (.inr (.v4 ⟨0, 0, 0, 0⟩)) hform rfl
    · rw [← String.ofList_toList (s := addr), hform] at hresolve
      exact absurd hresolve (resolve_colon (by simp) a)
  · rcases he with rfl | rfl | rfl
    · rw [← String.ofList_toList (s := addr), hform] at hresolve
      exact absurd hresolve (resolve_bracket rfl a)
    · rw [← String.ofList_toList (s := addr), hform] at hresolve
      exact absurd hresolve (resolve_bracket rfl a)
    · have hzeros : IsNumeric "[::]".toList (.v6 (List.replicate 8 0)) :=
        .v6 (.short (.inl ⟨rfl, rfl⟩) (.inl ⟨rfl, rfl⟩) (by decide))
      exact hliteral (.inr hzeros) hform rfl

/-! ## Resolved and advertised -/

theorem Machine.name_ne_empty (m : Machine) : m.name ≠ "" := by
  have hkept {o : Option String} {name : String} (h : o.filter (fun s => decide (s ≠ "")) = some name) : name ≠ "" :=
    of_decide_eq_true (Option.filter_eq_some_iff.1 h).2
  rw [Machine.name]
  cases henv : m.inEnvironment?.filter fun s => decide (s ≠ "") with
  | some name => exact hkept henv
  | none =>
    rw [Option.orElse_none]
    cases hfile : (m.inFile?.map trim).filter fun s => decide (s ≠ "") with
    | some name => exact hkept hfile
    | none => decide

/-- What a bind address advertises that resolves to `a` and is written as `literal` and `port`. -/
structure Advertised (addr : String) (a : SocketAddr) (literal port : List Char) : Prop where
  written : IsWritten addr.toList literal port
  /-- A specific address advertises its literal as it is written, without brackets. -/
  specific : a.ip.isUnspecified = false → ∀ m, hostName m addr = String.ofList literal
  /-- One that stands for every address advertises the machine if it is written in one of three ways, and only then. -/
  every : a.ip.isUnspecified = true → ((∀ m : Machine, hostName m addr = m.name) ↔ IsEvery literal)
  /-- In any other way, it advertises that text. -/
  spelled : ¬ IsEvery literal → ∀ m, hostName m addr = String.ofList literal
  named : ∀ m, hostName m addr ≠ ""

/--
  Every bind address that resolves advertises its literal, unless that is empty, `0.0.0.0`
  or `::`. So a specific address is advertised as it is written, and one that stands for
  every address as the machine only if it is written in one of these ways.
-/
theorem hostName_resolved {addr : String} {a : SocketAddr} (h : resolve addr = .ok a) :
    ∃ literal port, Advertised addr a literal port := by
  obtain ⟨literal, port, hwritten⟩ := resolve_written h
  have hname := hostName_written hwritten
  refine ⟨literal, port, hwritten, ?specific, ?every, ?spelled, ?named⟩
  case specific =>
    intro hip m
    refine (hname m).2 fun he => ?_
    rw [isUnspecified_of_isEvery hwritten he h] at hip
    cases hip
  case every =>
    refine fun _ => ⟨fun hall => ?_, fun he m => (hname m).1 he⟩
    by_contra he
    -- machines of different names would advertise one text
    have hone : String.ofList literal = "one" := ((hname { inEnvironment? := some "one" }).2 he).symm.trans (hall _)
    have htwo : String.ofList literal = "two" := ((hname { inEnvironment? := some "two" }).2 he).symm.trans (hall _)
    exact absurd (hone.symm.trans htwo) (by decide)
  case spelled => exact fun he m => (hname m).2 he
  case named =>
    intro m
    by_cases he : IsEvery literal
    · rw [(hname m).1 he]
      exact m.name_ne_empty
    · rw [(hname m).2 he]
      intro hempty
      exact he (.inl (by simpa using congrArg String.toList hempty))

theorem hostName_resolved_v6 :
    resolve "[2001:db8::1]:8443" = .ok { ip := .v6 [0x2001, 0xdb8, 0, 0, 0, 0, 0, 1], port := 8443 } ∧
      ∃ literal port, Advertised "[2001:db8::1]:8443"
        { ip := .v6 [0x2001, 0xdb8, 0, 0, 0, 0, 0, 1], port := 8443 } literal port := by
  have h : resolve "[2001:db8::1]:8443" = .ok { ip := .v6 [0x2001, 0xdb8, 0, 0, 0, 0, 0, 1], port := 8443 } := by decide
  exact ⟨h, hostName_resolved h⟩

def hubMachine : Machine := { inEnvironment? := some "hub-7" }

/-- Every IPv6 address, with a zero spelled out, is advertised by that text. -/
theorem zeros_advertised :
    resolve "[::0]:8080" = .ok { ip := .v6 (List.replicate 8 0), port := 8080 } ∧
      (Ip.v6 (List.replicate 8 0)).isUnspecified = true ∧
      hostName hubMachine "[::0]:8080" = "::0" ∧ hubMachine.name = "hub-7" := by
  decide

example : resolve "0:80" = .ok { ip := .v4 [0, 0, 0, 0], port := 80 } ∧ hostName hubMachine "0:80" = "0" := by decide

end Bind

end ServiceHost.Net
