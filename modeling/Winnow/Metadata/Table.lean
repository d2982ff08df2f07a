/-!
The tables of metadata: their numbers, their columns, and how wide a column is. A column that refers to rows
of another table, or to a heap, is as wide as the largest reference that can occur in this module needs.
-/
set_option autoImplicit false

namespace Winnow.Metadata

inductive Table
  | module | typeRef | typeDef | fieldPtr | field | methodPtr | methodDef | paramPtr | param | interfaceImpl
  | memberRef | constant | customAttribute | fieldMarshal | declSecurity | classLayout | fieldLayout
  | standAloneSig | eventMap | eventPtr | event | propertyMap | propertyPtr | property | methodSemantics
  | methodImpl | moduleRef | typeSpec | implMap | fieldRva | encLog | encMap | assembly | assemblyProcessor
  | assemblyOs | assemblyRef | assemblyRefProcessor | assemblyRefOs | file | exportedType | manifestResource
  | nestedClass | genericParam | methodSpec | genericParamConstraint
  deriving DecidableEq, Repr

def Table.number (t : Table) : Nat := t.ctorIdx

def Table.all : List Table := [
  .module, .typeRef, .typeDef, .fieldPtr, .field, .methodPtr, .methodDef, .paramPtr, .param, .interfaceImpl,
  .memberRef, .constant, .customAttribute, .fieldMarshal, .declSecurity, .classLayout, .fieldLayout,
  .standAloneSig, .eventMap, .eventPtr, .event, .propertyMap, .propertyPtr, .property, .methodSemantics,
  .methodImpl, .moduleRef, .typeSpec, .implMap, .fieldRva, .encLog, .encMap, .assembly, .assemblyProcessor,
  .assemblyOs, .assemblyRef, .assemblyRefProcessor, .assemblyRefOs, .file, .exportedType, .manifestResource,
  .nestedClass, .genericParam, .methodSpec, .genericParamConstraint]

/-- A reference to a row of one of several tables; its lowest bits tell which. -/
structure Choice where
  tagBits : Nat
  tables : List Table
  deriving DecidableEq, Repr

namespace Choice

def typeDefOrRef : Choice := ⟨2, [.typeDef, .typeRef, .typeSpec]⟩
def hasConstant : Choice := ⟨2, [.field, .param, .property]⟩
def hasCustomAttribute : Choice := ⟨5, [
  .methodDef, .field, .typeRef, .typeDef, .param, .interfaceImpl, .memberRef, .module, .declSecurity,
  .property, .event, .standAloneSig, .moduleRef, .typeSpec, .assembly, .assemblyRef, .file, .exportedType,
  .manifestResource, .genericParam, .genericParamConstraint, .methodSpec]⟩
def hasFieldMarshal : Choice := ⟨1, [.field, .param]⟩
def hasDeclSecurity : Choice := ⟨2, [.typeDef, .methodDef, .assembly]⟩
def memberRefParent : Choice := ⟨3, [.typeDef, .typeRef, .moduleRef, .methodDef, .typeSpec]⟩
def hasSemantics : Choice := ⟨1, [.event, .property]⟩
def methodDefOrRef : Choice := ⟨1, [.methodDef, .memberRef]⟩
def memberForwarded : Choice := ⟨1, [.field, .methodDef]⟩
def implementation : Choice := ⟨2, [.file, .assemblyRef, .exportedType]⟩
def customAttributeType : Choice := ⟨3, [.methodDef, .memberRef]⟩
def resolutionScope : Choice := ⟨2, [.module, .moduleRef, .assemblyRef, .typeRef]⟩
def typeOrMethodDef : Choice := ⟨1, [.typeDef, .methodDef]⟩

end Choice

inductive Column
  | word
  | double
  | text
  | guid
  | blob
  | row (table : Table)
  | choice (choice : Choice)
  deriving DecidableEq, Repr

def Table.columns : Table → List Column
  | .module => [.word, .text, .guid, .guid, .guid]
  | .typeRef => [.choice .resolutionScope, .text, .text]
  | .typeDef => [.double, .text, .text, .choice .typeDefOrRef, .row .field, .row .methodDef]
  | .fieldPtr => [.row .field]
  | .field => [.word, .text, .blob]
  | .methodPtr => [.row .methodDef]
  | .methodDef => [.double, .word, .word, .text, .blob, .row .param]
  | .paramPtr => [.row .param]
  | .param => [.word, .word, .text]
  | .interfaceImpl => [.row .typeDef, .choice .typeDefOrRef]
  | .memberRef => [.choice .memberRefParent, .text, .blob]
  | .constant => [.word, .choice .hasConstant, .blob]
  | .customAttribute => [.choice .hasCustomAttribute, .choice .customAttributeType, .blob]
  | .fieldMarshal => [.choice .hasFieldMarshal, .blob]
  | .declSecurity => [.word, .choice .hasDeclSecurity, .blob]
  | .classLayout => [.word, .double, .row .typeDef]
  | .fieldLayout => [.double, .row .field]
  | .standAloneSig => [.blob]
  | .eventMap => [.row .typeDef, .row .event]
  | .eventPtr => [.row .event]
  | .event => [.word, .text, .choice .typeDefOrRef]
  | .propertyMap => [.row .typeDef, .row .property]
  | .propertyPtr => [.row .property]
  | .property => [.word, .text, .blob]
  | .methodSemantics => [.word, .row .methodDef, .choice .hasSemantics]
  | .methodImpl => [.row .typeDef, .choice .methodDefOrRef, .choice .methodDefOrRef]
  | .moduleRef => [.text]
  | .typeSpec => [.blob]
  | .implMap => [.word, .choice .memberForwarded, .text, .row .moduleRef]
  | .fieldRva => [.double, .row .field]
  | .encLog => [.double, .double]
  | .encMap => [.double]
  | .assembly => [.double, .word, .word, .word, .word, .double, .blob, .text, .text]
  | .assemblyProcessor => [.double]
  | .assemblyOs => [.double, .double, .double]
  | .assemblyRef => [.word, .word, .word, .word, .double, .blob, .text, .text, .blob]
  | .assemblyRefProcessor => [.double, .row .assemblyRef]
  | .assemblyRefOs => [.double, .double, .double, .row .assemblyRef]
  | .file => [.double, .text, .blob]
  | .exportedType => [.double, .double, .text, .text, .choice .implementation]
  | .manifestResource => [.double, .double, .text, .choice .implementation]
  | .nestedClass => [.row .typeDef, .row .typeDef]
  | .genericParam => [.word, .word, .choice .typeOrMethodDef, .text]
  | .methodSpec => [.choice .methodDefOrRef, .blob]
  | .genericParamConstraint => [.row .genericParam, .choice .typeDefOrRef]

/-- What the widths of columns depend on: which heaps are large, and how many rows each table has. -/
structure Sizes where
  largeTexts : Bool
  largeGuids : Bool
  largeBlobs : Bool
  rows : Table → Nat

def referenceWidth (large : Bool) : Nat := if large then 4 else 2

def Column.width (s : Sizes) : Column → Nat
  | .word => 2
  | .double => 4
  | .text => referenceWidth s.largeTexts
  | .guid => referenceWidth s.largeGuids
  | .blob => referenceWidth s.largeBlobs
  | .row table => referenceWidth (Nat.pow 2 16 ≤ s.rows table)
  | .choice c => referenceWidth (c.tables.any fun table => Nat.pow 2 (16 - c.tagBits) ≤ s.rows table)

def Table.rowWidth (s : Sizes) (t : Table) : Nat := (t.columns.map (Column.width s)).foldr (· + ·) 0

def Table.offset (s : Sizes) (t : Table) : Nat :=
  ((all.take t.number).map fun before => s.rows before * before.rowWidth s).foldr (· + ·) 0

end Winnow.Metadata
