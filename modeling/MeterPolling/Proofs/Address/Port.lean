import MeterPolling.Address.Endpoint
import MeterPolling.Proofs.Address.Groups

namespace MeterPolling

open IpAddress

variable {cs text host port : List Char}

/-- What stands behind the last colon. -/
def portPart (cs : List Char) : List Char := (cs.reverse.takeWhile (· ≠ ':')).reverse

def hostPart (cs : List Char) : List Char := ((cs.reverse.dropWhile (· ≠ ':')).drop 1).reverse

def unbracketed : List Char → List Char
  | '[' :: cs => cs.dropLast
  | cs => cs

theorem stops_colon (cs : List Char) : Stops (· ≠ ':') (':' :: cs) := by
  intro c hc
  obtain rfl := Option.some.inj hc
  rfl

theorem ne_colon_of_mem_reverse (h : ':' ∉ port) : ∀ c ∈ port.reverse, (c ≠ ':' : Bool) := by
  intro c hc
  refine decide_eq_true ?_
  rintro rfl
  exact h (List.mem_reverse.mp hc)

theorem reverse_colon (host port : List Char) : (host ++ ':' :: port).reverse = port.reverse ++ ':' :: host.reverse := by
  simp

theorem portPart_append (h : ':' ∉ port) : portPart (host ++ ':' :: port) = port := by
  rw [portPart, reverse_colon, (stops_colon _).takeWhile_append (ne_colon_of_mem_reverse h), List.reverse_reverse]

theorem hostPart_append (h : ':' ∉ port) : hostPart (host ++ ':' :: port) = host := by
  rw [hostPart, reverse_colon, (stops_colon _).dropWhile_append (ne_colon_of_mem_reverse h), List.drop_one,
    List.tail_cons, List.reverse_reverse]

/-- An address of the Internet Protocol as a host: that of eight groups in brackets. -/
def hostChars : IpAddress → List Char
  | .v4 a b c d => dotted a b c d
  | .v6 groups eight => '[' :: (v6 groups eight).chars ++ [']']

theorem addressChars_ip {ip : IpAddress} (h : parse cs = some ip) : addressChars cs = hostChars ip ++ ':' :: "502".toList := by
  unfold addressChars
  cases ip with
  | v4 a b c d =>
    simp only [h]
    rfl
  | v6 groups eight =>
    simp only [h, hostChars, List.append_assoc, List.cons_append]
    rfl

theorem addressChars_colon (h : parse cs = none) (colon : ':' ∈ cs) : addressChars cs = cs := by
  simp [addressChars, h, colon]

theorem colon_mem_of_parse {groups : List UInt16} {eight : groups.length = 8} (h : parse cs = some (.v6 groups eight)) :
    ':' ∈ cs := by
  have htwo := two_le_count_colon h
  exact List.count_pos_iff.mp (by omega)

theorem addressChars_name (h : ':' ∉ host) : addressChars host = host ++ ':' :: "502".toList := by
  cases hparse : parse host with
  | none =>
    simp only [addressChars, hparse, List.contains_iff_mem, h, ↓reduceIte]
    rfl
  | some ip =>
    rw [addressChars_ip hparse]
    cases ip with
    | v4 a b c d => rw [parse_eq_v4_iff.mp hparse, hostChars]
    | v6 groups eight => exact (h (colon_mem_of_parse hparse)).elim

theorem count_colon (hhost : ':' ∉ host) (hport : ':' ∉ port) : (host ++ ':' :: port).count ':' = 1 := by
  rw [List.count_append, List.count_cons_self, List.count_eq_zero.mpr hhost, List.count_eq_zero.mpr hport]

theorem addressChars_port (hhost : ':' ∉ host) (hport : ':' ∉ port) :
    addressChars (host ++ ':' :: port) = host ++ ':' :: port :=
  addressChars_colon (parse_of_one_colon (count_colon hhost hport)) (by simp)

theorem addressChars_bracket (h : ':' ∈ cs) : addressChars ('[' :: cs) = '[' :: cs :=
  addressChars_colon (parse_bracket cs) (List.mem_cons_of_mem _ h)

inductive HostForm where
  | name
  | v4
  | bracketed
  | bare
  deriving DecidableEq, Repr

def portText : Option (List Char) → List Char
  | some port => ':' :: port
  | none => []

def DecimalPort (port : Option (List Char)) : Prop := ∀ digits ∈ port, ∀ c ∈ digits, c.isDigit

/-- Texts of the form `host[:port]`, each with its host and port. -/
inductive Spelled : HostForm → List Char → List Char → Option (List Char) → Prop
  | name {host : List Char} {port : Option (List Char)} (colon : ':' ∉ host) (decimal : DecimalPort port) :
    Spelled .name (host ++ portText port) host port
  | v4 {host : List Char} {port : Option (List Char)} {a b c d : UInt8} (address : parse host = some (.v4 a b c d))
    (decimal : DecimalPort port) : Spelled .v4 (host ++ portText port) host port
  | bracketed {cs : List Char} {port : Option (List Char)} {groups : List UInt16} {eight : groups.length = 8}
    (address : parse cs = some (.v6 groups eight)) (decimal : DecimalPort port) :
    Spelled .bracketed ('[' :: cs ++ [']'] ++ portText port) ('[' :: cs ++ [']']) port
  -- No port stands behind such a host: it would be one more group.
  | bare {cs : List Char} {groups : List UInt16} {eight : groups.length = 8}
    (address : parse cs = some (.v6 groups eight)) :
    Spelled .bare cs ('[' :: (v6 groups eight).chars ++ [']']) none

theorem colon_notMem_of_isDigit (h : ∀ c ∈ port, c.isDigit) : ':' ∉ port := fun hmem => nomatch h ':' hmem

theorem addressChars_portText {port : Option (List Char)} (hhost : ':' ∉ host) (decimal : DecimalPort port) :
    addressChars (host ++ portText port) = host ++ ':' :: port.getD "502".toList := by
  cases port with
  | none =>
    rw [portText, List.append_nil]
    exact addressChars_name hhost
  | some port => exact addressChars_port hhost (colon_notMem_of_isDigit (decimal port rfl))

theorem foldlM_pushDigit_bracket (limit : Nat) (overflow : Options.IntegerError) (cs : List Char) (n : Nat) :
    ∃ e, (cs ++ [']']).foldlM (Options.pushDigit limit overflow) n = .error e := by
  rw [List.foldlM_append]
  cases cs.foldlM (Options.pushDigit limit overflow) n with
  | error e => exact ⟨e, rfl⟩
  | ok m => exact ⟨.invalidDigit, rfl⟩

theorem digits_bracket (limit : Nat) (overflow : Options.IntegerError) (cs : List Char) :
    ∃ e, Options.digits limit overflow (cs ++ [']']) = .error e := by
  obtain ⟨e, he⟩ := foldlM_pushDigit_bracket limit overflow cs 0
  exact ⟨e, by simp [Options.digits, he]⟩

theorem parseUnsigned_bracket (cs : List Char) : ∃ e, Options.parseUnsigned (String.ofList (cs ++ [']'])) = .error e := by
  unfold Options.parseUnsigned
  rw [String.toList_ofList]
  cases cs with
  | nil => exact ⟨.invalidDigit, rfl⟩
  | cons c cs =>
    by_cases hplus : c = '+'
    · subst hplus
      exact digits_bracket _ _ cs
    · obtain ⟨e, he⟩ := digits_bracket 0xFFFFFFFFFFFFFFFF .tooLarge (c :: cs)
      refine ⟨e, ?_⟩
      simpa [hplus] using he

theorem portPart_bracket (cs : List Char) : portPart (cs ++ [']']) = portPart cs ++ [']'] := by
  simp [portPart]

theorem Endpoint.parse_bracket (cs : List Char) : Endpoint.parse (String.ofList (cs ++ [']'])) = .error .port := by
  obtain ⟨e, he⟩ := parseUnsigned_bracket (portPart cs)
  rw [← portPart_bracket] at he
  unfold Endpoint.parse
  simp only [String.toList_ofList]
  rw [portPart] at he
  rw [he]

/--
An address names the port that is given, or else that of Modbus; only a host in brackets that comes without a port is left
without one, and then there is nothing to connect to.
-/
theorem address_names_port {form : HostForm} {port : Option (List Char)} (spelled : Spelled form text host port) :
    if form = .bracketed ∧ port = none then
      addressOf (String.ofList text) = String.ofList host ∧
        Endpoint.parse (addressOf (String.ofList text)) = .error .port
    else addressOf (String.ofList text) = String.ofList (host ++ ':' :: port.getD "502".toList) := by
  simp only [addressOf, String.toList_ofList]
  cases spelled with
  | name colon decimal => rw [if_neg nofun, addressChars_portText colon decimal]
  | v4 address decimal =>
    obtain rfl := parse_eq_v4_iff.mp address
    rw [if_neg nofun, addressChars_portText (colon_notMem_dotted _ _ _ _) decimal]
  | @bracketed cs port groups eight address decimal =>
    have hcolon : ':' ∈ cs ++ [']'] ++ portText port := by simp [colon_mem_of_parse address]
    have hsame : addressChars ('[' :: cs ++ [']'] ++ portText port) = '[' :: cs ++ [']'] ++ portText port :=
      addressChars_bracket hcolon
    rw [hsame]
    cases port with
    | none =>
      rw [if_pos ⟨rfl, rfl⟩, portText, List.append_nil]
      exact ⟨rfl, Endpoint.parse_bracket ('[' :: cs)⟩
    | some port => rw [if_neg nofun, portText, Option.getD_some]
  | bare address => rw [if_neg nofun, addressChars_ip address, hostChars]; rfl

theorem address_names_port_bare :
    addressOf (String.ofList "0:0::1".toList) = String.ofList ("[::1]".toList ++ ':' :: "502".toList) := by
  have hspelled : Spelled .bare "0:0::1".toList "[::1]".toList none :=
    @Spelled.bare "0:0::1".toList [0, 0, 0, 0, 0, 0, 0, 1] rfl (by decide)
  exact address_names_port hspelled

theorem bracketed_host_keeps_no_port :
    addressOf "[fe80::1]" = "[fe80::1]" ∧ Endpoint.parse "[fe80::1]" = .error .port :=
  ⟨by decide, rfl⟩

theorem addressChars_settled (cs : List Char) : parse (addressChars cs) = none ∧ ':' ∈ addressChars cs := by
  by_cases hcolon : ':' ∈ cs
  · cases hparse : parse cs with
    | none =>
      rw [addressChars_colon hparse hcolon]
      exact ⟨hparse, hcolon⟩
    | some ip =>
      rw [addressChars_ip hparse]
      refine ⟨?_, by simp⟩
      cases ip with
      | v4 a b c d => exact parse_of_one_colon (count_colon (colon_notMem_dotted a b c d) (by decide))
      | v6 groups eight => exact parse_bracket _
  · rw [addressChars_name hcolon]
    exact ⟨parse_of_one_colon (count_colon hcolon (by decide)), by simp⟩

theorem addressOf_addressOf (host : String) : addressOf (addressOf host) = addressOf host := by
  obtain ⟨hnone, hcolon⟩ := addressChars_settled host.toList
  rw [addressOf, addressOf, String.toList_ofList, addressChars_colon hnone hcolon]

theorem unbracketed_of_parse {ip : IpAddress} (h : parse host = some ip) : unbracketed host = host := by
  unfold unbracketed
  split
  next cs =>
    rw [parse_bracket] at h
    cases h
  next => rfl

theorem parse_unbracketed_hostChars (ip : IpAddress) : parse (unbracketed (hostChars ip)) = some ip := by
  cases ip with
  | v4 a b c d =>
    have hparse : parse (dotted a b c d) = some (.v4 a b c d) := parse_eq_v4_iff.mpr rfl
    rw [hostChars, unbracketed_of_parse hparse, hparse]
  | v6 groups eight =>
    rw [hostChars, List.cons_append, unbracketed, List.dropLast_concat]
    exact parse_chars (.v6 groups eight)

variable {ip : IpAddress} {name : String}

theorem hostPart_addressOf (h : parse name.toList = some ip) : hostPart (addressOf name).toList = hostChars ip := by
  rw [addressOf, String.toList_ofList, addressChars_ip h, hostPart_append (by decide)]

theorem portPart_addressOf (h : parse name.toList = some ip) : portPart (addressOf name).toList = "502".toList := by
  rw [addressOf, String.toList_ofList, addressChars_ip h, portPart_append (by decide)]

theorem parse_hostPart (h : parse name.toList = some ip) :
    parse (unbracketed (hostPart (addressOf name).toList)) = some ip := by
  rw [hostPart_addressOf h, parse_unbracketed_hostChars]

/--
What an address is made of does not change when it is made again, and it always has a colon. Of a host that is an address of
the Internet Protocol it keeps just this address, whichever way that is spelled.
-/
theorem address_stable :
    (∀ host : String, addressOf (addressOf host) = addressOf host ∧ ':' ∈ (addressOf host).toList) ∧
    (∀ (host : String) (ip : IpAddress), parse host.toList = some ip →
      parse (unbracketed (hostPart (addressOf host).toList)) = some ip ∧
        portPart (addressOf host).toList = "502".toList) ∧
    ∀ (host other : String) (ip ip' : IpAddress), parse host.toList = some ip → parse other.toList = some ip' →
      (addressOf host = addressOf other ↔ ip = ip') := by
  refine ⟨fun host => ⟨addressOf_addressOf host, ?_⟩, fun host ip h => ⟨parse_hostPart h, portPart_addressOf h⟩, ?_⟩
  · rw [addressOf, String.toList_ofList]
    exact (addressChars_settled host.toList).2
  · intro host other ip ip' h h'
    constructor
    · intro hsame
      have hread := parse_hostPart h
      rw [hsame, parse_hostPart h'] at hread
      exact (Option.some.inj hread).symm
    · rintro rfl
      rw [addressOf, addressOf, addressChars_ip h, addressChars_ip h']

theorem address_stable_spellings :
    addressOf "FE80:0::1" = addressOf "fe80::0.0.0.1" ∧ addressOf "FE80:0::1" ≠ addressOf "fe80::2" := by
  obtain ⟨-, -, hsame⟩ := address_stable
  have hfirst : parse "FE80:0::1".toList = some (.v6 [0xfe80, 0, 0, 0, 0, 0, 0, 1] rfl) := by decide
  have hsecond : parse "fe80::0.0.0.1".toList = some (.v6 [0xfe80, 0, 0, 0, 0, 0, 0, 1] rfl) := by decide
  have hother : parse "fe80::2".toList = some (.v6 [0xfe80, 0, 0, 0, 0, 0, 0, 2] rfl) := by decide
  exact ⟨(hsame _ _ _ _ hfirst hsecond).mpr rfl, mt (hsame _ _ _ _ hfirst hother).mp (by decide)⟩

end MeterPolling
