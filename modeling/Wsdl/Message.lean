-- The texts of messages. A template shows each gap as its number in
-- braces; a message is the template with the arguments written in, one
-- after the other.

namespace Wsdl.Message

/-! ## Replacement -/

/-- The characters with every occurrence of `old` replaced, from the left
and without overlap. An empty `old` occurs nowhere. -/
def replaceAll (old new : List Char) : List Char → List Char
  | [] => []
  | c :: cs =>
    if !old.isEmpty && old.isPrefixOf (c :: cs) then
      new ++ replaceAll old new (cs.drop (old.length - 1))
    else c :: replaceAll old new cs
  termination_by cs => cs.length
  decreasing_by
    · simp only [List.length_drop, List.length_cons]; omega
    · simp

/-! ## Templates -/

/-- The mark of the gap with a number. -/
def gap (i : Nat) : List Char := '\x7b' :: (toString i).toList ++ ['\x7d']

/-- The templates, each behind the id of its assertion. -/
def templates : List (String × String) :=
  [("Description-1001", "The targetNamespace '\x7b0\x7d' is not an absolute IRI."),
   ("Description-1002",
     "The targetNamespace '\x7b0\x7d' does not dereference to a retrievable resource."),
   ("Description-1006", "The targetNamespace '\x7b0\x7d' is not an absolute IRI."),
   ("Description-1013",
     "The imported namespace '\x7b0\x7d' is the same as the importing document's targetNamespace."),
   ("Interface-1009", "The interface '\x7b0\x7d' appears in the set of interfaces it extends."),
   ("Interface-1010",
     "Duplicate interface name '\x7b0\x7d'. Interface names must be unique within a description."),
   ("Interface-1011", "The styleDefault IRI '\x7b0\x7d' of interface '\x7b1\x7d' is not absolute."),
   ("MEP-1022",
     "The message exchange pattern '\x7b0\x7d' of operation '\x7b1\x7d' is not an absolute IRI."),
   ("InterfaceOperation-1026",
     "Duplicate interface operation name '\x7b0\x7d' in interface '\x7b1\x7d'."),
   ("InterfaceOperation-1027",
     "The style IRI '\x7b0\x7d' of operation '\x7b1\x7d' is not absolute."),
   ("InterfaceFault-1028", "Duplicate interface fault name '\x7b0\x7d' in interface '\x7b1\x7d'."),
   ("InterfaceMessageReference-1029",
     "Duplicate message label '\x7b0\x7d' in interface operation '\x7b1\x7d'."),
   ("MessageLabel-1034",
     "The message label '\x7b0\x7d' of operation '\x7b1\x7d' is not a placeholder of pattern '\x7b2\x7d'."),
   ("MessageLabel-1035",
     "The fault reference message label '\x7b0\x7d' of operation '\x7b1\x7d' is not a placeholder of pattern '\x7b2\x7d'."),
   ("InterfaceFaultReference-1039",
     "Duplicate fault reference to '\x7b0\x7d' with message label '\x7b1\x7d' in interface operation '\x7b2\x7d'."),
   ("Binding-1044", "Binding '\x7b0\x7d' has binding faults but does not specify an interface."),
   ("Binding-1045", "Binding '\x7b0\x7d' does not bind interface operation '\x7b1\x7d'."),
   ("Binding-1048", "The type '\x7b0\x7d' of binding '\x7b1\x7d' is not an absolute IRI."),
   ("Binding-1049",
     "Duplicate binding name '\x7b0\x7d'. Binding names must be unique within a description."),
   ("BindingFault-1050",
     "Interface fault '\x7b0\x7d' is bound more than once by binding '\x7b1\x7d'."),
   ("BindingOperation-1051",
     "Interface operation '\x7b0\x7d' is bound more than once by binding '\x7b1\x7d'."),
   ("BindingMessageReference-1052",
     "Duplicate message label '\x7b0\x7d' in binding operation '\x7b1\x7d'."),
   ("BindingFaultReference-1055",
     "Duplicate binding fault reference to '\x7b0\x7d' with message label '\x7b1\x7d' in binding operation '\x7b2\x7d'."),
   ("Service-1060",
     "Duplicate service name '\x7b0\x7d'. Service names must be unique within a description."),
   ("Endpoint-1061", "The address '\x7b0\x7d' of endpoint '\x7b1\x7d' is not an absolute IRI."),
   ("Endpoint-1062",
     "The binding of endpoint '\x7b0\x7d' is for interface '\x7b1\x7d' but service '\x7b2\x7d' implements interface '\x7b3\x7d'."),
   ("QName-resolution-1064",
     "The \x7b0\x7d reference '\x7b1\x7d' does not resolve to a component."),
   ("Schema-1066",
     "The reference '\x7b0\x7d' does not refer to a schema imported or inlined in the types element."),
   ("Schema-1069",
     "The schema imported for namespace '\x7b0\x7d' from '\x7b1\x7d' has no targetNamespace."),
   ("Schema-1070",
     "The schema imported from '\x7b0\x7d' has targetNamespace '\x7b1\x7d' but was imported for namespace '\x7b2\x7d'."),
   ("Schema-1073",
     "Element '\x7b0\x7d' is declared in more than one inlined schema for namespace '\x7b1\x7d'."),
   ("Schema-1073b",
     "Type '\x7b0\x7d' is defined in more than one inlined schema for namespace '\x7b1\x7d'.")]

/-- The ids that have a template. -/
def knownIds : List String := templates.map (·.1)

/-- The template for an id, if there is one. -/
def template? (id : String) : Option String := templates.lookup id

/-! ## Messages -/

/-- Writes the arguments into a text, the first one at the marks
numbered `i`. What an argument brings with it is open to the ones after
it. -/
def fill (i : Nat) : List String → List Char → List Char
  | [], cs => cs
  | a :: as, cs => fill (i + 1) as (replaceAll (gap i) a.toList cs)

/-- The message for an id: its template filled in, or the id and the
arguments as they are. -/
def text (id : String) (args : List String) : String :=
  match template? id with
  | some t => String.ofList (fill 0 args t.toList)
  | none => if args.isEmpty then id else id ++ ": " ++ ", ".intercalate args

end Wsdl.Message
