/-
  ServiceHost.Proofs.Net.Resolution — validated bind addresses resolve.

  Validation looks at the port of a bind address only, and at the address without the
  blanks at its ends; the host is told from the port by the last colon, as it is when the
  address is resolved. A host that is a numeric address, or none, then resolves to that
  address and the port that was read, with two exceptions that validation does not see: a
  blank behind the port, which is part of the address when it is resolved, and a sign
  before the port of an address in brackets, which only other hosts are allowed
  (`resolve_valid`).
-/

import ServiceHost.Config.Validation
import ServiceHost.Proofs.Net.Literals
import ServiceHost.Proofs.Text.Blank

namespace ServiceHost

open ServiceHost.Text

/-! ## Ports -/

namespace Text

theorem readUnsigned_signed (max : Nat) (ds : List Char) :
    readUnsigned max ('+' :: ds) = (readDigits ds).filter (· ≤ max) := by
  cases hds : readDigits ds <;> simp [readUnsigned, hds, Option.filter]

theorem readUnsigned_plain {cs : List Char} (h : cs.head? ≠ some '+') (max : Nat) :
    readUnsigned max cs = (readDigits cs).filter (· ≤ max) := by
  unfold readUnsigned
  split
  · exact absurd rfl h
  · cases hcs : readDigits cs <;> simp [hcs, Option.filter]

theorem isBlank_of_isDigit {c : Char} (h : c.isDigit = true) : isBlank c = false := by
  have hcode := toNat_of_isDigit h
  simp only [isBlank, blankRanges, List.any_cons, List.any_nil, Bool.or_false, Bool.or_eq_false_iff,
    Bool.and_eq_false_iff, decide_eq_false_iff_not]
  omega

theorem readUnsigned_eq_none {cs : List Char} {c : Char} (hc : c ∈ cs) (hdigit : c.isDigit = false)
    (hsign : c ≠ '+') (max : Nat) : readUnsigned max cs = none := by
  by_cases hhead : cs.head? = some '+'
  · obtain ⟨ds, rfl⟩ : ∃ ds, cs = '+' :: ds := List.head?_eq_some_iff.1 hhead
    have hmem : c ∈ ds := (List.mem_cons.1 hc).resolve_left hsign
    rw [readUnsigned_signed, readDigits_eq_none hmem hdigit]
    rfl
  · rw [readUnsigned_plain hhead, readDigits_eq_none hc hdigit]
    rfl

end Text

namespace Net.Bind

/-! ## Resolution -/

/-- A host that is an address by itself: none, which stands for every IPv4 address, or a numeric one. -/
def IsLiteral (host : List Char) (ip : Ip) : Prop := host = [] ∧ ip = .v4 [0, 0, 0, 0] ∨ IsNumeric host ip

theorem normalized_of_head {addr : String} (h : addr.toList.head? ≠ some ':') : normalized addr = addr := if_neg h

/-- Only IPv4 addresses are found by the reading that takes any host. -/
theorem lookup_numeric {host : List Char} {ip : Ip} (h : IsNumeric host ip) :
    ((legacy? host).orElse fun _ => Ip.ofGroups? host) = if host.head? = some '[' then none else some ip := by
  cases h with
  | v4 q =>
    obtain ⟨c, cs, hcs, hdigit⟩ := q.text_cons
    have hhead : q.text.head? ≠ some '[' := by
      rw [hcs]
      rintro ⟨⟩
      cases hdigit
    rw [legacy?_quad, if_neg hhead]
    rfl
  | @v6 cs _ _ =>
    rw [List.cons_append, legacy?_bracket, List.head?_cons, if_pos rfl]
    exact Ip.ofGroups?_bracket (cs ++ [']'])

theorem head?_numeric {host : List Char} {ip : Ip} (h : IsNumeric host ip) (rest : List Char) :
    ∃ c, (host ++ rest).head? = some c ∧ c ≠ ':' ∧ isBlank c = false := by
  cases h with
  | v4 q =>
    obtain ⟨c, cs, hcs, hdigit⟩ := q.text_cons
    refine ⟨c, by rw [hcs]; rfl, ?_, isBlank_of_isDigit hdigit⟩
    rintro rfl
    cases hdigit
  | v6 _ => exact ⟨'[', rfl, by decide, by decide⟩

theorem resolve_numeric {host port : List Char} {ip : Ip} (h : IsNumeric host ip) (hport : ':' ∉ port) :
    resolve (String.ofList (host ++ ':' :: port)) =
      match readUnsigned 65535 port with
      | none => .error .portValue
      | some n =>
        if host.head? = some '[' ∧ port.head? = some '+' then .error .hostUnknown else .ok { ip, port := n } := by
  obtain ⟨c, hhead, hcolon, -⟩ := head?_numeric h (':' :: port)
  have hnormal : normalized (String.ofList (host ++ ':' :: port)) = String.ofList (host ++ ':' :: port) := by
    refine normalized_of_head ?_
    rw [String.toList_ofList, hhead]
    simpa using hcolon
  have hcut : cutLast ':' (host ++ ':' :: port) = some (host, port) := cutLast_eq_some_iff.2 ⟨rfl, hport⟩
  simp only [resolve, hnormal, SocketAddr.ofText?_numeric h, String.toList_ofList, hcut, lookup_numeric h]
  by_cases hsign : port.head? = some '+'
  · -- with a sign the port is not that of a socket address, and the host is looked up
    obtain ⟨ds, rfl⟩ : ∃ ds, port = '+' :: ds := List.head?_eq_some_iff.1 hsign
    have hnone : SocketAddr.port? ('+' :: ds) = none := by
      rw [SocketAddr.port?, readDigits_eq_none List.mem_cons_self (by decide)]
      rfl
    rw [hnone]
    cases readUnsigned 65535 ('+' :: ds) with
    | none => rfl
    | some n =>
      by_cases hbracket : host.head? = some '['
      · simp [hbracket]
      · simp [hbracket]
  · rw [readUnsigned_plain hsign, SocketAddr.port?]
    cases (readDigits port).filter (· ≤ 65535) with
    | none => rfl
    | some n => simp [hsign]

theorem resolve_normalized (addr : String) : resolve (normalized addr) = resolve addr := by
  have hnormal : normalized (normalized addr) = normalized addr := by
    by_cases hcolon : addr.toList.head? = some ':'
    · refine normalized_of_head ?_
      rw [normalized, if_pos hcolon, String.toList_append]
      simp
    · rw [normalized_of_head hcolon, normalized_of_head hcolon]
  rw [resolve, hnormal, resolve]

theorem resolve_literal {host port : List Char} {ip : Ip} (h : IsLiteral host ip) (hport : ':' ∉ port) :
    resolve (String.ofList (host ++ ':' :: port)) =
      match readUnsigned 65535 port with
      | none => .error .portValue
      | some n =>
        if host.head? = some '[' ∧ port.head? = some '+' then .error .hostUnknown else .ok { ip, port := n } := by
  rcases h with ⟨rfl, rfl⟩ | h
  · have hnumeric : IsNumeric "0.0.0.0".toList (.v4 [0, 0, 0, 0]) := .v4 ⟨0, 0, 0, 0⟩
    have hnormal : normalized (String.ofList ([] ++ ':' :: port)) =
        String.ofList ("0.0.0.0".toList ++ ':' :: port) := by
      rw [normalized, if_pos (by simp), List.nil_append, String.ofList_append, String.ofList_toList]
    rw [← resolve_normalized, hnormal, resolve_numeric hnumeric hport]
    rfl
  · exact resolve_numeric h hport

/-! ## Validated addresses -/

/-- What stands in front of the port and is no blank keeps the host as it is when the address is trimmed. -/
theorem trim_literal {host port : List Char} {ip : Ip} (h : IsLiteral host ip) :
    trimChars (host ++ ':' :: port) = host ++ ':' :: dropEndWhile isBlank port := by
  have hfront : (host ++ ':' :: port).dropWhile isBlank = host ++ ':' :: port := by
    refine dropWhile_eq_self_iff_head?.2 fun c hc => ?_
    rcases h with ⟨rfl, -⟩ | h
    · cases hc
      rfl
    · obtain ⟨d, hd, -, hblank⟩ := head?_numeric h (':' :: port)
      rw [hd] at hc
      cases hc
      exact hblank
  rw [trimChars, hfront, dropEndWhile_append_cons (by decide)]

theorem port_of_valid {c : Config.HostConfig} (hc : c.IsValid) {host port : List Char} {ip : Ip}
    (hcut : cutLast ':' c.http.bindAddr.toList = some (host, port)) (h : IsLiteral host ip) :
    ∃ n, readUnsigned 65535 (dropEndWhile isBlank port) = some n := by
  obtain ⟨haddr, hport⟩ := cutLast_eq_some_iff.1 hcut
  have hkept : ':' ∉ dropEndWhile isBlank port := fun hmem =>
    hport ((List.rdropWhile_prefix isBlank port).subset hmem)
  have htrim : (trim c.http.bindAddr).toList = host ++ ':' :: dropEndWhile isBlank port := by
    rw [trim, String.toList_ofList, haddr, trim_literal h]
  simp only [Config.HostConfig.IsValid, Config.HostConfig.problems, Config.HttpConfig.problems,
    List.append_eq_nil_iff] at hc
  obtain ⟨⟨⟨⟨hform, -⟩, -⟩, -⟩, -⟩ := hc
  have hnonempty : (trim c.http.bindAddr).isEmpty = false := by
    rw [String.isEmpty_eq_false_iff]
    intro hempty
    rw [hempty] at htrim
    simp at htrim
  have htrimmed : cutLast ':' (host ++ ':' :: dropEndWhile isBlank port) = some (host, dropEndWhile isBlank port) :=
    cutLast_eq_some_iff.2 ⟨rfl, hkept⟩
  rw [hnonempty, htrim, Config.hasPort, htrimmed] at hform
  cases hn : readUnsigned 65535 (dropEndWhile isBlank port) with
  | some n => exact ⟨n, rfl⟩
  | none => simp [hn, Config.found] at hform

/-- What validation does not see, and how resolution fails on it. -/
inductive Overlooked (host port : List Char) : IoError → Prop
  /-- A blank behind the port. -/
  | blank {c : Char} : port.getLast? = some c → isBlank c = true → Overlooked host port .portValue
  /-- A sign before the port of an address in brackets. -/
  | sign : host.head? = some '[' → port.head? = some '+' →
      (∀ c, port.getLast? = some c → isBlank c = false) → Overlooked host port .hostUnknown

/--
  A validated bind address whose host is a literal resolves to that address and to the port
  that its text reads as, unless validation has overlooked something; then it does not
  resolve at all.
-/
theorem resolve_valid {c : Config.HostConfig} (hc : c.IsValid) {host p : List Char} {ip : Ip}
    (hcut : cutLast ':' c.http.bindAddr.toList = some (host, p)) (hhost : IsLiteral host ip) :
    ((∀ e, ¬ Overlooked host p e) →
      ∃ n, readUnsigned 65535 (port c.http.bindAddr).toList = some n ∧
        resolve c.http.bindAddr = .ok { ip, port := n }) ∧
    ∀ e, Overlooked host p e → resolve c.http.bindAddr = .error e := by
  obtain ⟨haddr, hport⟩ := cutLast_eq_some_iff.1 hcut
  have hsplit : (port c.http.bindAddr).toList = p := by
    rw [port, split, hcut, String.toList_ofList]
  have hresolve := resolve_literal hhost hport
  rw [← haddr, String.ofList_toList] at hresolve
  obtain ⟨n, hn⟩ := port_of_valid hc hcut hhost
  rw [hsplit]
  refine ⟨fun hseen => ?_, ?_⟩
  · have hsolid (c : Char) (hc : p.getLast? = some c) : isBlank c = false :=
      Bool.eq_false_iff.2 fun hblank => hseen _ (.blank hc hblank)
    rw [dropEndWhile_eq_self_iff.2 hsolid] at hn
    have hsign : ¬ (host.head? = some '[' ∧ p.head? = some '+') := fun h => hseen _ (.sign h.1 h.2 hsolid)
    refine ⟨n, hn, ?_⟩
    rw [hresolve, hn]
    exact if_neg hsign
  · intro e he
    cases he with
    | @blank b hlast hblank =>
      have hdigit : b.isDigit = false := by
        by_contra hd
        rw [isBlank_of_isDigit (Bool.not_eq_false _ ▸ hd)] at hblank
        cases hblank
      have hsign : b ≠ '+' := by
        rintro rfl
        exact absurd hblank (by decide)
      rw [hresolve, readUnsigned_eq_none (List.mem_of_getLast? hlast) hdigit hsign]
    | sign hbracket hsign hsolid =>
      rw [dropEndWhile_eq_self_iff.2 hsolid] at hn
      rw [hresolve, hn]
      exact if_pos ⟨hbracket, hsign⟩

def boundTo (addr : String) : Config.HostConfig := { http := { bindAddr := addr } }

theorem resolve_valid_v6 :
    ((boundTo "[2001:db8::1]:8443").IsValid ∧
        cutLast ':' "[2001:db8::1]:8443".toList = some ("[2001:db8::1]".toList, "8443".toList) ∧
        IsLiteral "[2001:db8::1]".toList (.v6 [0x2001, 0xdb8, 0, 0, 0, 0, 0, 1])) ∧
      resolve "[2001:db8::1]:8443" = .ok { ip := .v6 [0x2001, 0xdb8, 0, 0, 0, 0, 0, 1], port := 8443 } := by
  have hvalid : (boundTo "[2001:db8::1]:8443").IsValid := by decide
  have hcut : cutLast ':' "[2001:db8::1]:8443".toList = some ("[2001:db8::1]".toList, "8443".toList) := by decide
  have hgroup : IsGroup "2001".toList 0x2001 := ⟨by decide, by decide, [2, 0, 0, 1], by decide, by decide⟩
  have hnext : IsGroup "db8".toList 0xdb8 := ⟨by decide, by decide, [13, 11, 8], by decide, by decide⟩
  have hlast : IsGroup "1".toList 1 := ⟨by decide, by decide, [1], by decide, by decide⟩
  have hfront : IsRun false ("2001".toList ++ ':' :: "db8".toList) [0x2001, 0xdb8] := .more hgroup (.group hnext)
  have hliteral : IsLiteral "[2001:db8::1]".toList (.v6 [0x2001, 0xdb8, 0, 0, 0, 0, 0, 1]) :=
    .inr (.v6 (.short (.inr hfront) (.inr (.group hlast)) (by decide)))
  have hseen : ∀ e, ¬ Overlooked "[2001:db8::1]".toList "8443".toList e := by
    rintro e (⟨hc, hblank⟩ | ⟨-, hsign, -⟩)
    · cases hc
      exact absurd hblank (by decide)
    · exact absurd hsign (by decide)
  obtain ⟨n, hn, hresolve⟩ := (resolve_valid hvalid hcut hliteral).1 hseen
  obtain rfl : n = 8443 := Option.some.inj (hn.symm.trans (by decide))
  exact ⟨⟨hvalid, hcut, hliteral⟩, hresolve⟩

/-- Validation takes a blank behind the port for none, and the address does not resolve. -/
theorem blank_behind_port :
    (boundTo "127.0.0.1:8080 ").IsValid ∧ IsLiteral "127.0.0.1".toList (.v4 [127, 0, 0, 1]) ∧
      cutLast ':' "127.0.0.1:8080 ".toList = some ("127.0.0.1".toList, "8080 ".toList) ∧
      resolve "127.0.0.1:8080 " = .error .portValue :=
  ⟨by decide, .inr (.v4 ⟨127, 0, 0, 1⟩), by decide, by decide⟩

example : (boundTo "[::1]:+8080").IsValid ∧ resolve "[::1]:+8080" = .error .hostUnknown := by decide

end Net.Bind

end ServiceHost
