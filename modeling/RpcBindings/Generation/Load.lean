import RpcBindings.Document.Reader
import RpcBindings.Failure
import RpcBindings.File.Disk
import RpcBindings.Schema.Basic

/-!
# Loading a schema (SPEC §4.4)

A schema is made of the regular files of one directory, taken in increasing order of their names.
Directories are passed over before the pattern is looked at; a name that the pattern refuses is not
looked up; and of the others those count that are regular files once links are followed.  The first
file that is no document ends the run.
-/

set_option autoImplicit false

namespace RpcBindings.Generation

open RpcBindings.File (Disk Node)

/-- What became of something, and what is left of the allowance. -/
abbrev Outcome (α : Type) : Type := Except Failure α × Allowance

/-- The document that a file holds, if the run may go on. -/
def readDocument (allowance : Allowance) (file data : Bytes) : Outcome Document :=
  match allowance.check with
  | .error why => (.error (.noted ("building " ++ file) (.interrupted why)), allowance)
  | .ok allowance =>
      match Document.read file data with
      | .error v => (.error (.violation v), allowance)
      | .ok document => (.ok document, allowance)

/-- The pattern takes the name; the empty pattern takes all names. -/
def takes (pattern name : Bytes) : Except Failure Bool :=
  if pattern = [] then .ok true
  else
    match Glob.matches? pattern name with
    | .ok answer => .ok answer
    | .error fault =>
        .error (Failure.classify Code.config [] (.glob fault) ("invalid pattern " ++ quote pattern))

/-- The path of a schema file, if the entry of the directory is one. -/
def schemaFile? (d : Disk) (dir pattern name : Bytes) (node : Node) :
    Except Failure (Option Bytes) :=
  if node.isFolder then .ok none
  else
    match takes pattern name with
    | .error f => .error f
    | .ok false => .ok none
    | .ok true =>
        let path := Path.join dir name
        match d.stat path with
        | .error fault =>
            .error (Failure.classify Code.io path (.file fault) "failed to stat schema")
        | .ok node => .ok (if node.isFile then some path else none)

/-- The paths of the schema files among the entries of a directory. -/
def selectFiles (d : Disk) (dir pattern : Bytes) :
    List (Bytes × Node) → Except Failure (List Bytes)
  | [] => .ok []
  | (name, node) :: rest =>
      match schemaFile? d dir pattern name node with
      | .error f => .error f
      | .ok file? =>
          match selectFiles d dir pattern rest with
          | .error f => .error f
          | .ok files => .ok (file?.toList ++ files)

/-- The paths of the schema files in a directory, in increasing order of their names. -/
def schemaFiles (d : Disk) (dir pattern : Bytes) : Except Failure (List Bytes) :=
  match d.list dir with
  | .error fault =>
      .error (Failure.classify Code.io dir (.file fault) "failed to list schema directory")
  | .ok entries => selectFiles d dir pattern entries

/-- Reads files one after another and adds their documents to a schema. -/
def addFiles (d : Disk) (allowance : Allowance) (schema : Schema) :
    List Bytes → Outcome Schema
  | [] => (.ok schema, allowance)
  | file :: rest =>
      match d.read file with
      | .error fault =>
          (.error (Failure.classify Code.io file (.file fault) "failed to read schema"), allowance)
      | .ok data =>
          match readDocument allowance file data with
          | (.error f, allowance) => (.error (Failure.classify Code.schema file f []), allowance)
          | (.ok document, allowance) => addFiles d allowance (schema.addDocument document) rest

/-- The schema that the files of a directory make up. -/
def load (d : Disk) (allowance : Allowance) (dir pattern : Bytes) : Outcome Schema :=
  match schemaFiles d dir pattern with
  | .error f => (.error f, allowance)
  | .ok files => addFiles d allowance Schema.empty files

end RpcBindings.Generation
