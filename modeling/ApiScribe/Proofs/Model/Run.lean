import ApiScribe.Proofs.Model.Find

/-!
# Runs of building

The runs that succeed, with one case for each way through a function, and with the files in place of
the memory: `Resolves`, `Expands`, `EmbedsAll`, `Embeds` and `SettlesAll`.
-/

namespace ApiScribe

theorem Declared.role_of_kind {overrides : Overrides} {d : Declared}
    (h : ∀ type, d.decl.kind ≠ .synonym type) : d.role overrides = .model := by
  unfold role
  split
  · exact absurd ‹_› (h _)
  · rfl

namespace Build

variable (w : Workspace) (overrides : Overrides)

mutual

inductive Resolves : Trail → String → String → List String → Outcome → List String → Prop
  | primitive {trail name package done primitive}
      (hname : TypeName.primitive? overrides name = some primitive) :
      Resolves trail name package done (.primitive primitive none) done
  | known {trail name package done d} (hname : TypeName.primitive? overrides name = none)
      (hfound : w.found name package = .ok d)
      (hknown : d.modelId ∈ trail.inProgress ∨ d.modelId ∈ done) :
      Resolves trail name package done (.reference d) done
  | synonym {trail name package done d primitive}
      (hname : TypeName.primitive? overrides name = none) (hfound : w.found name package = .ok d)
      (hnew : ¬(d.modelId ∈ trail.inProgress ∨ d.modelId ∈ done))
      (hrole : d.role overrides = .primitive primitive) :
      Resolves trail name package done (.primitive primitive (some d)) done
  | follow {trail name package done d target outcome done'}
      (hname : TypeName.primitive? overrides name = none) (hfound : w.found name package = .ok d)
      (hnew : ¬(d.modelId ∈ trail.inProgress ∨ d.modelId ∈ done))
      (hrole : d.role overrides = .follows target)
      (hrest : Resolves (trail.follow d) target d.package done outcome done') :
      Resolves trail name package done outcome done'
  | build {trail name package done d built done'}
      (hname : TypeName.primitive? overrides name = none) (hfound : w.found name package = .ok d)
      (hnew : ¬(d.modelId ∈ trail.inProgress ∨ d.modelId ∈ done))
      (hrole : d.role overrides = .model) (hmodel : Expands (trail.enter d) d done built done') :
      Resolves trail name package done (.built built.1 built.2) (d.modelId :: done')

inductive Expands : Trail → Declared → List String → Built → List String → Prop
  | struct {trail d done fields embedded done' built done''}
      (hkind : d.decl.kind = .struct fields)
      (hembedded : EmbedsAll trail d.package fields done embedded done')
      (hsettled : SettlesAll trail d.package (Sketch.ofFields overrides d fields).typeNames
        (embedded.foldl (fun s child => s.merge child.1) (Sketch.ofFields overrides d fields),
          embedded.flatMap Prod.snd) done' built done'') :
      Expands trail d done built done''
  | bare {trail d done} (hkind : ∀ fields, d.decl.kind ≠ .struct fields) :
      Expands trail d done ({ id := d }, []) done

/-- The embedded fields among some fields are built. -/
inductive EmbedsAll :
    Trail → String → List FieldDecl → List String → List Built → List String → Prop
  | nil {trail package done} : EmbedsAll trail package [] done [] done
  | skip {trail package f fs done embedded done'} (hfield : f.embedded? overrides = none)
      (hrest : EmbedsAll trail package fs done embedded done') :
      EmbedsAll trail package (f :: fs) done embedded done'
  | field {trail package f fs done name found done' others done''}
      (hfield : f.embedded? overrides = some name)
      (hfirst : Embeds trail name package done found done')
      (hrest : EmbedsAll trail package fs done' others done'') :
      EmbedsAll trail package (f :: fs) done (found.toList ++ others) done''

/-- An embedded type is built, or has nothing to merge. -/
inductive Embeds : Trail → String → String → List String → Option Built → List String → Prop
  | known {trail name package done d} (hfound : w.found name package = .ok d)
      (hknown : d.modelId ∈ trail.embedding) : Embeds trail name package done none done
  | follow {trail name package done d target found done'} (hfound : w.found name package = .ok d)
      (hnew : d.modelId ∉ trail.embedding) (hrole : d.role overrides = .follows target)
      (hrest : Embeds (trail.embed d) target d.package done found done') :
      Embeds trail name package done found done'
  | synonym {trail name package done d type} (hfound : w.found name package = .ok d)
      (hnew : d.modelId ∉ trail.embedding) (hrole : ∀ target, d.role overrides ≠ .follows target)
      (hkind : d.decl.kind = .synonym type) : Embeds trail name package done none done
  | expand {trail name package done d built done'} (hfound : w.found name package = .ok d)
      (hnew : d.modelId ∉ trail.embedding) (hkind : ∀ type, d.decl.kind ≠ .synonym type)
      (hmodel : Expands (trail.embed d) d done built done') :
      Embeds trail name package done (some built) done'

/-- Some type names of a model are resolved, and what they stand for is put in. -/
inductive SettlesAll :
    Trail → String → List String → Built → List String → Built → List String → Prop
  | nil {trail package built done} : SettlesAll trail package [] built done built done
  | cons {trail package name names built done outcome done' built' done''}
      (hfirst : Resolves trail name package done outcome done')
      (hrest : SettlesAll trail package names
        (built.1.settle name outcome.content, built.2 ++ outcome.models) done' built' done'') :
      SettlesAll trail package (name :: names) built done built' done''

end

end Build

end ApiScribe
