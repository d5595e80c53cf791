/-
  ServiceHost.Proofs.Net.Literals — the texts of numeric addresses, and how they are read.

  An IPv4 address is written as four octets in decimal (`IsQuad`). An IPv6 address is
  written as eight groups of hexadecimal digits, or with a double colon for a run of zeros,
  and its last two groups can be written as octets (`IsV6Text`). The reader finds these at
  the front of a text whatever follows, as long as it does not go on with the address
  (`Stops`): so it finds the address in front of a port.
-/

import Mathlib.Data.Nat.Digits.Defs
import ServiceHost.Net.Bind
import ServiceHost.Proofs.Text.Cut
import ServiceHost.Proofs.Text.Numeral

namespace ServiceHost

/-! ## Texts of addresses -/

namespace Net

open ServiceHost.Text

structure Quad where
  a : Fin 256
  b : Fin 256
  c : Fin 256
  d : Fin 256

namespace Quad

def octets (q : Quad) : List Nat := [q.a, q.b, q.c, q.d]

def text (q : Quad) : List Char := (Ip.dotted q.octets).toList

/-- The last two groups of an IPv6 address that ends in these octets. -/
def groups (q : Quad) : List Nat := [q.a * 256 + q.b, q.c * 256 + q.d]

theorem text_eq (q : Quad) :
    q.text = Nat.toDigits 10 q.a ++ '.' :: (Nat.toDigits 10 q.b ++ '.' :: (Nat.toDigits 10 q.c ++ '.' ::
      Nat.toDigits 10 q.d)) := by
  simp [text, octets, Ip.dotted]

end Quad

def isHexDigit (c : Char) : Bool := (hexValue? c).isSome

/-- One to four hexadecimal digits that denote a number. -/
structure IsGroup (ds : List Char) (n : Nat) : Prop where
  nonempty : ds ≠ []
  short : ds.length ≤ 4
  value : ∃ vs : List Nat, ds.map hexValue? = vs.map some ∧ n = Nat.ofDigits 16 vs.reverse

/-- Groups with a colon between each two; if `mixed`, octets can stand in place of the last two. -/
inductive IsRun (mixed : Bool) : List Char → List Nat → Prop
  | group {ds : List Char} {n : Nat} : IsGroup ds n → IsRun mixed ds [n]
  | quad (q : Quad) : mixed = true → IsRun mixed q.text q.groups
  | more {ds cs : List Char} {n : Nat} {gs : List Nat} :
      IsGroup ds n → IsRun mixed cs gs → IsRun mixed (ds ++ ':' :: cs) (n :: gs)

/-- What can stand on a side of a double colon: groups, or nothing. -/
def IsSide (mixed : Bool) (cs : List Char) (gs : List Nat) : Prop := cs = [] ∧ gs = [] ∨ IsRun mixed cs gs

/-- The text of an IPv6 address: all eight groups, or a double colon for the zeros left out. -/
inductive IsV6Text : List Char → List Nat → Prop
  | full {cs : List Char} {gs : List Nat} : IsRun true cs gs → gs.length = 8 → IsV6Text cs gs
  | short {front back : List Char} {gs hs : List Nat} :
      IsSide false front gs → IsSide true back hs → gs.length + hs.length ≤ 7 →
      IsV6Text (front ++ ':' :: ':' :: back) (gs ++ List.replicate (8 - gs.length - hs.length) 0 ++ hs)

/-- What does not go on with an IPv6 address: no digit, no dot, and a colon only if it is a double one. -/
structure Stops (rest : List Char) : Prop where
  digit : LacksFirst isHexDigit rest
  dot : LacksFirst (· = '.') rest
  colon : ∀ r, rest = ':' :: r → r.head? = some ':'

theorem stops_cons {c : Char} (hdigit : isHexDigit c = false) (hdot : c ≠ '.') (hcolon : c ≠ ':')
    (rest : List Char) : Stops (c :: rest) where
  digit := lacksFirst_cons.2 hdigit
  dot := lacksFirst_cons.2 (decide_eq_false hdot)
  colon := by
    rintro r hr
    exact absurd (List.cons.inj hr).1 hcolon

theorem stops_colons (rest : List Char) : Stops (':' :: ':' :: rest) where
  digit := lacksFirst_cons.2 rfl
  dot := lacksFirst_cons.2 rfl
  colon := by
    rintro r hr
    cases hr
    rfl

theorem IsGroup.hex {ds : List Char} {n : Nat} (h : IsGroup ds n) : ∀ c ∈ ds, isHexDigit c = true := by
  intro c hc
  obtain ⟨vs, hvs, -⟩ := h.value
  have hmem : hexValue? c ∈ vs.map some := by
    rw [← hvs]
    exact List.mem_map_of_mem hc
  obtain ⟨v, -, hv⟩ := List.mem_map.1 hmem
  rw [isHexDigit, ← hv]
  rfl

/-! ## Octets -/

namespace Ip

theorem expect_self (c : Char) (cs : List Char) : expect c (c :: cs) = some cs := by rw [expect, if_pos rfl]

theorem expect_eq_none {c : Char} {cs : List Char} (h : LacksFirst (· = c) cs) : expect c cs = none := by
  cases cs with
  | nil => rfl
  | cons d cs =>
    have hd : d ≠ c := by simpa using h
    rw [expect, if_neg hd]

theorem octet?_digits {n : Nat} (hn : n ≤ 255) {rest : List Char} (hrest : LacksFirst Char.isDigit rest) :
    octet? (Nat.toDigits 10 n ++ rest) = some (n, rest) := by
  have hlen : (Nat.toDigits 10 n).length ≤ 3 := (Nat.length_toDigits_le_iff (by decide) (by decide)).2 (by omega)
  have hzero : ¬ (1 < (Nat.toDigits 10 n).length ∧ (Nat.toDigits 10 n).head? = some '0') := by
    rintro ⟨hlong, hhead⟩
    rcases Nat.eq_zero_or_pos n with rfl | hpos
    · rw [Nat.toDigits_zero] at hlong
      exact absurd hlong (by decide)
    · exact head?_toDigits hpos hhead
  simp only [octet?, takeWhile_append_lacks isDigit_toDigits hrest]
  rw [if_neg (not_or.2 ⟨by omega, hzero⟩), readDigits_toDigits]
  simp [hn]

/-- Four octets are read off the front of a text, whatever follows that is no digit. -/
theorem dotted?_quad (q : Quad) {rest : List Char} (hrest : LacksFirst Char.isDigit rest) :
    dotted? (q.text ++ rest) = some (q.octets, rest) := by
  have hdot (cs : List Char) : LacksFirst Char.isDigit ('.' :: cs) := lacksFirst_cons.2 rfl
  have hoctet (n : Fin 256) : n.val ≤ 255 := by omega
  rw [Quad.text_eq]
  simp only [List.append_assoc, List.cons_append, dotted?, octet?_digits (hoctet _) (hdot _), expect_self,
    octet?_digits (hoctet _) hrest, Option.bind_eq_bind, Option.bind_some]
  rfl

theorem octet?_rest {cs rest : List Char} {n : Nat} (h : octet? cs = some (n, rest)) :
    rest = cs.dropWhile Char.isDigit := by
  have hdrop : cs.drop (cs.takeWhile Char.isDigit).length = cs.dropWhile Char.isDigit := by
    have hspan : (cs.takeWhile Char.isDigit ++ cs.dropWhile Char.isDigit).drop (cs.takeWhile Char.isDigit).length =
        cs.dropWhile Char.isDigit := List.drop_left
    rwa [List.takeWhile_append_dropWhile] at hspan
  unfold octet? at h
  dsimp only at h
  rw [hdrop] at h
  split at h
  · cases h
  · obtain ⟨m, -, hm⟩ := Option.bind_eq_some_iff.1 h
    split at hm
    · cases hm
      rfl
    · cases hm

theorem dotted?_eq_none {cs : List Char} (h : LacksFirst (· = '.') (cs.dropWhile Char.isDigit)) :
    dotted? cs = none := by
  rw [dotted?]
  cases hcs : octet? cs with
  | none => rfl
  | some r =>
    obtain ⟨n, rest⟩ := r
    obtain rfl := octet?_rest hcs
    simp only [Option.bind_eq_bind, Option.bind_some, expect_eq_none h, Option.bind_none]

/-! ## Groups -/

theorem foldlM_hexValue {ds : List Char} {vs : List Nat} (h : ds.map hexValue? = vs.map some) :
    ds.foldlM (fun n c => (hexValue? c).map (16 * n + ·)) 0 = some (Nat.ofDigits 16 vs.reverse) := by
  have hfold (init : Nat) : ds.foldlM (fun n c => (hexValue? c).map (16 * n + ·)) init =
      some (vs.foldl (fun n v => v + 16 * n) init) := by
    induction ds generalizing vs init with
    | nil =>
      obtain rfl : vs = [] := by simpa using h.symm
      rfl
    | cons c ds ih =>
      cases vs with
      | nil => cases h
      | cons v vs =>
        obtain ⟨hc, hds⟩ := List.cons.inj h
        rw [List.foldlM_cons, hc, Option.map_some, Nat.add_comm]
        exact ih hds _
  rw [hfold, Nat.ofDigits_eq_foldr, List.foldr_reverse]
  rfl

theorem group?_group {ds rest : List Char} {n : Nat} (h : IsGroup ds n) (hrest : LacksFirst isHexDigit rest) :
    group? (ds ++ rest) = some (n, rest) := by
  obtain ⟨hne, hshort, vs, hvs, rfl⟩ := h
  have hspan : (ds ++ rest).takeWhile (fun c => (hexValue? c).isSome) = ds :=
    takeWhile_append_lacks (IsGroup.hex ⟨hne, hshort, vs, hvs, rfl⟩) hrest
  simp only [group?, hspan, foldlM_hexValue hvs]
  rw [if_neg (by simp [hne, hshort])]
  simp

theorem group?_eq_none {rest : List Char} (h : LacksFirst isHexDigit rest) : group? rest = none := by
  have hspan : rest.takeWhile (fun c => (hexValue? c).isSome) = [] := takeWhile_append_lacks (List.forall_mem_nil _) h
  simp only [group?, hspan]
  rfl

theorem isHexDigit_of_isDigit {c : Char} (h : c.isDigit = true) : isHexDigit c = true := by
  rw [isHexDigit, hexValue?, if_pos h]
  rfl

theorem lacksDigit_of_lacksHexDigit {rest : List Char} (h : LacksFirst isHexDigit rest) :
    LacksFirst Char.isDigit rest := by
  intro c hc
  by_contra hd
  have hhex := isHexDigit_of_isDigit (Bool.not_eq_false _ ▸ hd)
  rw [h c hc] at hhex
  cases hhex

theorem dotted?_group {ds rest : List Char} {n : Nat} (h : IsGroup ds n) (hhex : LacksFirst isHexDigit rest)
    (hdot : LacksFirst (· = '.') rest) : dotted? (ds ++ rest) = none := by
  refine dotted?_eq_none fun c hc => decide_eq_false ?_
  rintro rfl
  rw [List.dropWhile_append] at hc
  split at hc
  · have hkept : rest.dropWhile Char.isDigit = rest := by
      cases rest with
      | nil => rfl
      | cons c rest =>
        have hc : c.isDigit = false := lacksDigit_of_lacksHexDigit hhex c rfl
        exact List.dropWhile_cons_of_neg (by simp [hc])
    rw [hkept] at hc
    exact absurd (hdot '.' hc) (by decide)
  · next hleft =>
    obtain ⟨d, left, hds⟩ : ∃ d left, ds.dropWhile Char.isDigit = d :: left :=
      List.exists_cons_of_ne_nil (by simpa using hleft)
    rw [hds] at hc
    obtain rfl : d = '.' := by simpa using hc
    have hmem : '.' ∈ ds := (List.dropWhile_sublist Char.isDigit).subset (by rw [hds]; exact List.mem_cons_self)
    exact absurd (h.hex '.' hmem) (by decide)

theorem dotted?_lacksDigit {rest : List Char} (h : LacksFirst Char.isDigit rest) : dotted? rest = none := by
  have hspan : rest.takeWhile Char.isDigit = [] := takeWhile_append_lacks (List.forall_mem_nil _) h
  have hoctet : octet? rest = none := by
    simp only [octet?, hspan]
    rfl
  rw [dotted?, hoctet]
  rfl

theorem groups_stops {rest : List Char} (h : Stops rest) (limit : Nat) (first : Bool) :
    groups limit first rest = ([], false, rest) := by
  cases limit with
  | zero => rfl
  | succ limit =>
    have hbelow : (if first then some rest else expect ':' rest) = none ∨
        ∃ below, (if first then some rest else expect ':' rest) = some below ∧ LacksFirst isHexDigit below := by
      cases first with
      | true => exact .inr ⟨rest, rfl, h.digit⟩
      | false =>
        cases rest with
        | nil => exact .inl rfl
        | cons c r =>
          by_cases hc : c = ':'
          · subst hc
            refine .inr ⟨r, expect_self ':' r, fun c hc => ?_⟩
            -- a second colon follows the first
            rw [h.colon r rfl] at hc
            cases hc
            rfl
          · exact .inl (expect_eq_none (lacksFirst_cons.2 (decide_eq_false hc)))
    rw [groups]
    rcases hbelow with hnone | ⟨below, hsome, hlacks⟩
    · rw [hnone]
    · simp only [hsome, dotted?_lacksDigit (lacksDigit_of_lacksHexDigit hlacks), ite_self, group?_eq_none hlacks]

theorem groups_run {mixed : Bool} {cs rest : List Char} {gs : List Nat} (h : IsRun mixed cs gs) (hrest : Stops rest)
    {limit : Nat} (hlimit : gs.length ≤ limit) (first : Bool) :
    ∃ m, (m = true → mixed = true) ∧
      groups limit first ((if first then cs else ':' :: cs) ++ rest) = (gs, m, rest) := by
  have hbelow (first : Bool) (cs : List Char) : (if first then some ((if first then cs else ':' :: cs) ++ rest)
      else expect ':' ((if first then cs else ':' :: cs) ++ rest)) = some (cs ++ rest) := by
    cases first with
    | true => rfl
    | false => exact expect_self ':' (cs ++ rest)
  induction h generalizing limit first with
  | @group ds n hgroup =>
    obtain ⟨limit, rfl⟩ : ∃ k, limit = k + 1 := ⟨limit - 1, by simp at hlimit; omega⟩
    refine ⟨false, by simp, ?_⟩
    rw [groups, hbelow]
    simp only [dotted?_group hgroup hrest.digit hrest.dot, ite_self, group?_group hgroup hrest.digit,
      groups_stops hrest]
  | quad q hmixed =>
    obtain ⟨limit, rfl⟩ : ∃ k, limit = k + 2 := ⟨limit - 2, by simp [Quad.groups] at hlimit; omega⟩
    refine ⟨true, fun _ => hmixed, ?_⟩
    rw [groups, hbelow]
    simp [dotted?_quad q (lacksDigit_of_lacksHexDigit hrest.digit), Quad.octets, Quad.groups]
  | @more ds cs n gs hgroup hrun ih =>
    obtain ⟨limit, rfl⟩ : ∃ k, limit = k + 1 := ⟨limit - 1, by simp at hlimit; omega⟩
    obtain ⟨m, hm, hgroups⟩ := ih (Nat.le_of_succ_le_succ hlimit) false
    have hhex : LacksFirst isHexDigit (':' :: cs ++ rest) := lacksFirst_cons.2 rfl
    have hdot : LacksFirst (· = '.') (':' :: cs ++ rest) := lacksFirst_cons.2 rfl
    refine ⟨m, hm, ?_⟩
    rw [groups, hbelow, List.append_assoc]
    simp only [dotted?_group hgroup hhex hdot, ite_self, group?_group hgroup hhex]
    rw [if_neg (by decide)] at hgroups
    rw [hgroups]

theorem groups_side {mixed : Bool} {cs rest : List Char} {gs : List Nat} (h : IsSide mixed cs gs) (hrest : Stops rest)
    (limit : Nat) (hlimit : gs.length ≤ limit) :
    ∃ m, (m = true → mixed = true) ∧ groups limit true (cs ++ rest) = (gs, m, rest) := by
  rcases h with ⟨rfl, rfl⟩ | hrun
  · exact ⟨false, by simp, groups_stops hrest limit true⟩
  · exact groups_run hrun hrest hlimit true

/-- The text of an IPv6 address is read to its end, whatever follows that does not go on with it. -/
theorem v6?_text {cs rest : List Char} {gs : List Nat} (h : IsV6Text cs gs) (hrest : Stops rest) :
    v6? (cs ++ rest) = some (gs, rest) := by
  rw [v6?]
  cases h with
  | full hrun hlen =>
    obtain ⟨m, -, hgroups⟩ := groups_run hrun hrest (Nat.le_of_eq hlen) true
    rw [if_pos rfl] at hgroups
    simp only [hgroups, hlen]
    rfl
  | @short front back gs hs hfront hback hlen =>
    obtain ⟨m, hm, hhead⟩ := groups_side hfront (stops_colons (back ++ rest)) 8 (by omega)
    obtain ⟨m', -, htail⟩ := groups_side hback hrest (7 - gs.length) (by omega)
    obtain rfl : m = false := by simpa using hm
    have hseven : gs.length ≠ 8 := by omega
    rw [List.append_assoc, List.cons_append, List.cons_append, hhead]
    simp only [hseven, expect_self, if_false, Option.bind_eq_bind, Option.bind_some, Bool.false_eq_true]
    rw [htail]
    rfl

theorem ofGroups?_bracket (cs : List Char) : ofGroups? ('[' :: cs) = none := by
  have hstops : Stops ('[' :: cs) := stops_cons rfl (by decide) (by decide) cs
  have hread : v6? ('[' :: cs) = none := by
    rw [v6?, groups_stops hstops]
    rfl
  rw [ofGroups?, hread]

end Ip

/-! ## Hosts in a bind address -/

/-- Hosts that are numeric addresses: IPv4 as it is, and IPv6 in brackets. -/
inductive IsNumeric : List Char → Ip → Prop
  | v4 (q : Quad) : IsNumeric q.text (.v4 q.octets)
  | v6 {cs : List Char} {gs : List Nat} : IsV6Text cs gs → IsNumeric ('[' :: cs ++ [']']) (.v6 gs)

theorem Quad.text_cons (q : Quad) : ∃ c cs, q.text = c :: cs ∧ c.isDigit = true := by
  have hdigits := isDigit_toDigits (n := q.a)
  rw [text_eq]
  cases hcs : Nat.toDigits 10 q.a with
  | nil => exact absurd hcs Nat.toDigits_ne_nil
  | cons c cs =>
    rw [hcs] at hdigits
    exact ⟨c, _, List.cons_append, hdigits c List.mem_cons_self⟩

theorem SocketAddr.ofText?_numeric {host : List Char} {ip : Ip} (h : IsNumeric host ip) (port : List Char) :
    ofText? (String.ofList (host ++ ':' :: port)) = (port? port).map fun n => { ip, port := n } := by
  rw [ofText?, String.toList_ofList]
  cases h with
  | v4 q =>
    obtain ⟨c, cs, hcs, hdigit⟩ := q.text_cons
    have hcolon : LacksFirst Char.isDigit (':' :: port) := lacksFirst_cons.2 rfl
    split
    · next heq =>
      rw [hcs] at heq
      cases heq
      cases hdigit
    · rw [Ip.dotted?_quad q hcolon]
      simp only [Option.bind_eq_bind, Option.bind_some, Ip.expect_self]
      cases port? port <;> rfl
  | @v6 cs gs htext =>
    have hstops : Stops (']' :: ':' :: port) := stops_cons rfl (by decide) (by decide) _
    have hscope : scope? (']' :: ':' :: port) = some (0, ']' :: ':' :: port) := rfl
    simp only [List.cons_append, List.append_assoc, List.nil_append, Ip.v6?_text htext hstops, hscope, Ip.expect_self,
      Option.bind_eq_bind, Option.bind_some]
    cases port? port <;> rfl

namespace Bind

theorem foldlM_decimal {ds : List Char} (h : ∀ c ∈ ds, c.isDigit = true) (init : Nat) :
    ds.foldlM (fun n c => (hexValue? c).bind fun d => if d < 10 then some (10 * n + d) else none) init =
      some (Nat.ofDigitChars 10 ds init) := by
  induction ds generalizing init with
  | nil => rfl
  | cons c ds ih =>
    have hc : c.isDigit = true := h c List.mem_cons_self
    have hlt : c.toNat - 48 < 10 := by
      have hcode := toNat_of_isDigit hc
      omega
    rw [List.foldlM_cons, hexValue?, if_pos hc, Option.bind_some, if_pos hlt, Nat.ofDigitChars_cons]
    exact ih (fun d hd => h d (List.mem_cons_of_mem _ hd)) _

theorem legacyPart?_toDigits (n : Nat) : legacyPart? (Nat.toDigits 10 n) = some n := by
  have hdigits := isDigit_toDigits (n := n)
  have hzero : (Nat.toDigits 10 n).head? = some '0' → n = 0 := by
    intro hhead
    by_contra hn
    exact head?_toDigits (Nat.pos_of_ne_zero hn) hhead
  have hradix := foldlM_decimal hdigits 0
  rw [Nat.ofDigitChars_ten_toDigits] at hradix
  unfold legacyPart?
  dsimp only
  split
  · next ds hds => exact absurd (hdigits 'x' (by simp [hds])) (by decide)
  · next ds hds => exact absurd (hdigits 'X' (by simp [hds])) (by decide)
  · next ds _ _ hds =>
    obtain rfl := hzero (by rw [hds]; rfl)
    cases hds
    rfl
  · rw [if_neg (by simp), hradix]

theorem legacy?_quad (q : Quad) : legacy? q.text = some (.v4 q.octets) := by
  have hdot (n : Nat) : '.' ∉ Nat.toDigits 10 n := fun h => absurd (isDigit_toDigits '.' h) (by decide)
  have hparts : (cutAll '.' q.text).mapM legacyPart? = some q.octets := by
    rw [Quad.text_eq, cutAll_append (hdot _), cutAll_append (hdot _), cutAll_append (hdot _),
      cutAll_of_notMem (hdot _)]
    simp [legacyPart?_toDigits, Quad.octets]
  obtain ⟨a, b, c, d⟩ := q
  have hlast : d.val / pow2 0 % 256 = d.val := by
    rw [show pow2 0 = 1 from rfl, Nat.div_one, Nat.mod_eq_of_lt d.isLt]
  have hfits : ¬ (4 < 4 ∨ [a.val, b.val, c.val].any (255 < ·) ∨ pow2 8 ≤ d.val) := by
    rw [show pow2 8 = 256 from rfl]
    simp
    omega
  rw [legacy?, hparts]
  refine (if_neg hfits).trans ?_
  change some (Ip.v4 [a.val, b.val, c.val, d.val / pow2 0 % 256]) = _
  rw [hlast]
  rfl

theorem legacy?_bracket (cs : List Char) : legacy? ('[' :: cs) = none := by
  have hpart (w : List Char) : legacyPart? ('[' :: w) = none := rfl
  cases hcs : cutAll '.' cs with
  | nil => exact absurd hcs (cutAll_ne_nil '.' cs)
  | cons w ws =>
    have hcut : cutAll '.' ('[' :: cs) = ('[' :: w) :: ws := by
      rw [cutAll, hcs]
      exact if_neg (by decide)
    rw [legacy?, hcut, List.mapM_cons, hpart]
    rfl

end Bind

end Net

end ServiceHost
