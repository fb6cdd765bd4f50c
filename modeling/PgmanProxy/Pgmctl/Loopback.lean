import PgmanProxy.Library.GoNet
import PgmanProxy.Pgmctl.ConfigStore

/-!
# Plaintext endpoints

A bearer token may go over plaintext to the machine itself only. Both places that check
an endpoint take a host for the loopback when its text, without port and brackets, is one
of three names or begins with `127.`. A DNS name can begin so, and brackets need not come
in pairs.
-/

namespace PgmanProxy.Pgmctl.Loopback

open PgmanProxy.Library.GoNet
open PgmanProxy.Library.GoStrings (cutLead)
open PgmanProxy.Pgmctl.Config PgmanProxy.Pgmctl.Commands PgmanProxy.Pgmctl.ConfigStore

set_option autoImplicit false

/-! ## Hosts -/

/-- The text both checks look at. -/
def bareHost (host : String) : String := stripBrackets (stripPort host)

def startsAs127 (text : String) : Bool := (cutLead "127." text).isSome

/-- A syntactically valid IPv4 address in 127.0.0.0/8. -/
def InBlock (text : String) : Prop :=
  ∃ second third fourth, parseIPv4 text = some (127, second, third, fourth)

/-- The names a token may be sent to in the clear. -/
def LoopbackName (name : String) : Prop :=
  name = "localhost" ∨ name = "::1" ∨ InBlock name

/-- The two checks agree. -/
theorem is_loopback_iff (host : String) :
    isLoopback host = true ↔ bareHost host = "localhost" ∨ bareHost host = "::1" ∨
      startsAs127 (bareHost host) = true := by
  have address : bareHost host = "127.0.0.1" → startsAs127 (bareHost host) = true := by
    intro same
    rw [same]
    decide
  unfold isLoopback
  simp only [Bool.or_eq_true, decide_eq_true_eq]
  constructor
  · rintro (((same | same) | same) | starts)
    · exact Or.inr (Or.inr (address same))
    · exact Or.inr (Or.inl same)
    · exact Or.inl same
    · exact Or.inr (Or.inr starts)
  · rintro (same | same | starts)
    · exact Or.inl (Or.inr same)
    · exact Or.inl (Or.inl (Or.inr same))
    · exact Or.inr starts

theorem is_loopback_host_eq (host : String) : isLoopbackHost host = isLoopback host := by
  unfold isLoopbackHost isLoopback
  dsimp only
  split
  · rename_i empty
    rw [empty]
    decide
  · rfl

theorem loopback_name_runes (name : String) (loopback : LoopbackName name) :
    (∀ rune ∈ name.toList, isBracket rune = false) ∧ (':' ∈ name.toList → name = "::1") := by
  rcases loopback with rfl | rfl | ⟨second, third, fourth, read⟩
  · exact ⟨by simp [isBracket], by simp⟩
  · exact ⟨by simp [isBracket], fun _ => rfl⟩
  · have runes := ipv4_runes name _ read
    constructor
    · intro rune present
      rcases runes rune present with digit | dot
      · cases bracket : isBracket rune with
        | false => rfl
        | true =>
            simp only [isBracket, Bool.or_eq_true, decide_eq_true_eq] at bracket
            rcases bracket with rfl | rfl <;> cases digit
      · rw [dot]
        decide
    · intro colon
      rcases runes ':' colon with digit | dot
      · cases digit
      · cases dot

/-- Where the host name is a loopback name, the checks cut the port off as `Hostname` does. -/
theorem strip_port_portless (host : String) (loopback : LoopbackName (hostname host)) :
    (stripPort host).toList = portless host.toList := by
  have same : (host.toList.reverse.takeWhile (fun rune => rune != ':')).length =
      (colonTail host.toList).length := by
    rw [colonTail, List.length_reverse]
  have inside : ']' ∈ host.toList.reverse.takeWhile (fun rune => rune != ':') ↔
      ']' ∈ colonTail host.toList := by
    rw [colonTail, List.mem_reverse]
  unfold stripPort
  simp only [Bool.and_eq_true, decide_eq_true_eq, same, inside]
  by_cases colon : ':' ∈ host.toList
  · by_cases digits : (colonTail host.toList).all Char.isDigit = true
    · rw [if_pos ⟨colon, bracket_not_digit _ digits⟩, portless, if_pos ⟨colon, digits⟩,
        String.toList_ofList]
      rfl
    · have kept : portless host.toList = host.toList := by
        rw [portless, if_neg]
        rintro ⟨-, port⟩
        exact digits port
      rw [kept]
      by_cases bracketed : ']' ∈ colonTail host.toList
      · rw [if_neg]
        rintro ⟨-, outside⟩
        exact outside bracketed
      · -- a colon with something else behind it stays in the host name, which is then no loopback
        exfalso
        have unpaired : unbracket host.toList = host.toList := by
          rw [unbracket, if_neg]
          rintro ⟨-, closed⟩
          exact bracketed (last_in_tail host.toList ']' closed (by decide))
        have whole : hostname host = host := by
          rw [hostname, kept, unpaired, String.ofList_toList]
        rw [whole] at loopback
        have address := (loopback_name_runes host loopback).2 colon
        rw [address] at digits
        exact digits (by decide)
  · rw [portless, if_neg (fun both => colon both.1), if_neg (fun both => colon both.1)]

theorem bare_eq_hostname (host : String) (loopback : LoopbackName (hostname host)) :
    bareHost host = hostname host := by
  have clean : ∀ rune ∈ unbracket (portless host.toList), isBracket rune = false := by
    have runes := (loopback_name_runes _ loopback).1
    rw [hostname, String.toList_ofList] at runes
    exact runes
  rw [bareHost, stripBrackets, strip_port_portless host loopback, hostname]
  exact congrArg String.ofList (trim_unbracket _ clean)

/-- What is left of the host begins with `127.` and is no address, or it is not the host's
name: brackets without a counterpart are taken off as well. -/
def Misread (host : String) : Prop :=
  (startsAs127 (bareHost host) = true ∧ ¬ InBlock (bareHost host)) ∨
    ((bareHost host = "localhost" ∨ bareHost host = "::1" ∨ startsAs127 (bareHost host) = true) ∧
      hostname host ≠ bareHost host)

theorem loopback_name_iff (host : String) :
    (isLoopback host = true → LoopbackName (hostname host)) ↔ ¬ Misread host := by
  rw [is_loopback_iff]
  constructor
  · rintro loopback (⟨starts, outside⟩ | ⟨passes, hidden⟩)
    · have named := loopback (Or.inr (Or.inr starts))
      rw [bare_eq_hostname host named] at starts outside
      rcases named with same | same | inside
      · rw [same] at starts
        exact absurd starts (by decide)
      · rw [same] at starts
        exact absurd starts (by decide)
      · exact outside inside
    · exact hidden (bare_eq_hostname host (loopback passes)).symm
  · intro read passes
    have plain : hostname host = bareHost host := by
      by_contra hidden
      exact read (Or.inr ⟨passes, hidden⟩)
    rw [plain]
    rcases passes with same | same | starts
    · exact Or.inl same
    · exact Or.inr (Or.inl same)
    · by_cases inside : InBlock (bareHost host)
      · exact Or.inr (Or.inr inside)
      · exact absurd (Or.inl ⟨starts, inside⟩) read

/-! ## Endpoints -/

section Endpoints

variable (parseURL : String → Except String URL) (endpoint : String)

/-- Some context with this endpoint is valid, or some client is built for it. -/
def Accepts : Prop :=
  (∃ context : Context, context.endpoint = endpoint ∧ validateContext parseURL context = .ok ()) ∨
    ∃ (network : Network) (flags : GlobalFlags) (resolved : Resolved) (client : Client),
      network.parseURL = parseURL ∧ resolved.endpoint = endpoint ∧
        newClient network flags resolved = .ok client

theorem validated_loopback (context : Context) (url : URL)
    (valid : validateContext parseURL context = .ok ())
    (parsed : parseURL context.endpoint = .ok url) (plaintext : url.scheme ≠ "https") :
    isLoopback url.host = true := by
  obtain ⟨found, read, allowed, -⟩ := valid_context_cases context valid
  rw [parsed] at read
  cases read
  exact allowed.resolve_left plaintext

theorem client_loopback (network : Network) (flags : GlobalFlags) (resolved : Resolved)
    (client : Client) (url : URL) (built : newClient network flags resolved = .ok client)
    (parsed : network.parseURL resolved.endpoint = .ok url) (plaintext : url.scheme ≠ "https") :
    isLoopback url.host = true := by
  unfold newClient at built
  rw [parsed] at built
  dsimp only at built
  split at built
  · cases built
  · rename_i allowed
    rw [← is_loopback_host_eq]
    simpa [plaintext] using allowed

theorem accepted_loopback (url : URL) (accepted : Accepts parseURL endpoint)
    (parsed : parseURL endpoint = .ok url) (plaintext : url.scheme ≠ "https") :
    isLoopback url.host = true := by
  rcases accepted with
    ⟨context, rfl, valid⟩ | ⟨network, flags, resolved, client, rfl, rfl, built⟩
  · exact validated_loopback parseURL context url valid parsed plaintext
  · exact client_loopback network flags resolved client url built parsed plaintext

/-- With a token from the environment and no certificates to load, the host decides. -/
theorem loopback_accepted (url : URL) (parsed : parseURL endpoint = .ok url)
    (loopback : isLoopback url.host = true) : Accepts parseURL endpoint := by
  let network : Network :=
    { parseURL := parseURL
      buildTLS := fun _ _ => .ok ()
      expandHome := .ok
      readFile := .error
      runCommand := fun _ => .error "" }
  let flags : GlobalFlags := ⟨"", false, 0, false, "", "", "", "", false⟩
  let resolved : Resolved := ⟨endpoint, "", TLSBlock.zero, "", "PGMCTL_TOKEN", "", []⟩
  have built : newClient network flags resolved = .ok ⟨resolved, .env "PGMCTL_TOKEN"⟩ := by
    unfold newClient
    simp only [network, resolved, parsed, is_loopback_host_eq, loopback, Bool.not_true,
      Bool.and_false, Bool.false_eq_true, if_false]
    rfl
  exact Or.inr ⟨network, flags, resolved, _, rfl, rfl, built⟩

/-- A token goes over plaintext to the machine itself only. -/
def TokenStaysHome : Prop :=
  ∀ url, parseURL endpoint = .ok url → url.scheme ≠ "https" → Accepts parseURL endpoint →
    LoopbackName (hostname url.host)

theorem token_stays_home_iff :
    TokenStaysHome parseURL endpoint ↔
      ∀ url, parseURL endpoint = .ok url → url.scheme ≠ "https" → ¬ Misread url.host := by
  constructor
  · intro home url parsed plaintext
    rw [← loopback_name_iff]
    intro loopback
    exact home url parsed plaintext (loopback_accepted parseURL endpoint url parsed loopback)
  · intro read url parsed plaintext accepted
    exact (loopback_name_iff url.host).2 (read url parsed plaintext)
      (accepted_loopback parseURL endpoint url accepted parsed plaintext)

end Endpoints

/-- `url.Parse` on a scheme and a host alone. -/
def parsePlain (endpoint : String) : Except String URL :=
  match cutLead "http://" endpoint with
  | some host => .ok ⟨"http", host⟩
  | none => .error "missing protocol scheme"

def foreignEndpoint : String := "http://127.0.0.1.attacker.example:8443"

theorem dns_name_taken_for_loopback :
    validateContext parsePlain
        ⟨"prod", foreignEndpoint, "prod", "PGMCTL_TOKEN", "", [], TLSBlock.zero⟩ = .ok () ∧
      ¬ TokenStaysHome parsePlain foreignEndpoint := by
  have parsed : parsePlain foreignEndpoint =
      .ok ⟨"http", "127.0.0.1.attacker.example:8443"⟩ := by decide
  have name : hostname "127.0.0.1.attacker.example:8443" = "127.0.0.1.attacker.example" := by
    decide
  have unread : parseIPv4 "127.0.0.1.attacker.example" = none := by decide
  have valid : validateContext parsePlain
      ⟨"prod", foreignEndpoint, "prod", "PGMCTL_TOKEN", "", [], TLSBlock.zero⟩ = .ok () := by
    decide
  constructor
  · exact valid
  · intro home
    have loopback := home _ parsed (by decide) (Or.inl ⟨_, rfl, valid⟩)
    rw [name] at loopback
    rcases loopback with same | same | ⟨second, third, fourth, read⟩
    · exact absurd same (by decide)
    · exact absurd same (by decide)
    · rw [unread] at read
      cases read

end PgmanProxy.Pgmctl.Loopback
