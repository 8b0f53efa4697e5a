import RegistrySync.Proofs.Json.Document
import RegistrySync.Schema.Document

/-!
A record of texts is read back.
-/

namespace RegistrySync.Json

open Text

def member (m : String × String) : String × Json := (m.1, .text m.2)

def Members.ofTexts : List (String × String) → Members
  | [] => .stop .closed
  | m :: ms => .member ⟨.ok m.1, none⟩ (.text ⟨.ok m.2, none⟩) (ofTexts ms)

lemma toMembers_texts (ms : List (String × String)) :
    toMembers (ms.map member) = Members.ofTexts ms := by
  induction ms with
  | nil => rfl
  | cons m ms ih => exact congrArg (Members.member ⟨.ok m.1, none⟩ (.text ⟨.ok m.2, none⟩)) ih

lemma parse_record (ms : List (String × String)) :
    Document.parse (Utf8.encode (Json.record (ms.map member)).print) =
      (.record (Members.ofTexts ms), false) := by
  have hwhole : IsWhole (.record (ms.map member)) := by
    refine .record fun m hm => ?_
    obtain ⟨m, -, rfl⟩ := List.mem_map.1 hm
    exact .text m.2
  rw [parse_print hwhole, toDocument, toMembers_texts]

lemma ofText_record {α : Type} (s : Schema α) (ms : List (String × String)) :
    s.ofText (Json.record (ms.map member)).print = s.ofDocument (.record (Members.ofTexts ms)) := by
  rw [Schema.ofText, Schema.ofBytes, parse_record]
  simp only [bind, Except.bind]
  rcases s.ofDocument (.record (Members.ofTexts ms)) with _ | _ <;> rfl

end RegistrySync.Json
