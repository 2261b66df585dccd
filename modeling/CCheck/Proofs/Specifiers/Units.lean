import CCheck.Proofs.Specifiers.Statements

/-! # Specifiers of whole programs

The types of a declaration and the head of a function belong to the file scope, and the body of a
function is a setting of its own. -/

set_option autoImplicit false

namespace CCheck

open Check
open Site (nodesAll topsAll lostAll)

variable {lost:List SpecifierKey} {fs fs' bs bs':List Site} {c d e:Checker}

namespace Setting

def file (lost:List SpecifierKey) : Setting := ⟨false,lost⟩

lemma fits_file (hc:c.Idle) (htags:c.TagsNamed) : (file lost).Fits c :=
 ⟨htags,(fun h => nomatch h),fun _ => hc.level⟩

def body (lost:List SpecifierKey) : Setting := ⟨true,lost⟩

lemma resolves_checkHeading (Γ:Setting) (head:FunctionDecl) :
  Γ.Resolves head.type.sites (checkHeading head) := by
 refine (Γ.resolves_resolveType head.type).last fun t => ?_
 refine (Resolves.look (.of (.definedSignature head t False.elim))).first fun f => ?_
 refine (Resolves.look (.of (.paramsNamed _ _))).first fun _ => ?_
 refine (Resolves.look (.of (.returnsComplete _ _))).first fun _ => ?_
 exact (Resolves.calm (.declareFunction _ _ _ _)).first fun _ => .pure _

end Setting

/-- What holds of a run over external declarations that have the sites `fs` at file scope and the
sites `bs` in function bodies. -/
structure Passes (lost:List SpecifierKey) (fs bs:List Site) (c d:Checker) : Prop where
 idle : d.Idle
 reaches : (Setting.file lost).Reaches (fs ++ bs) c d
 completes : d.errorCount = 0 → Completes lost
  ((nodesAll fs).map (false,·) ++ (nodesAll bs).map (true,·)) (topsAll fs) c d

namespace Passes

lemma refl (hc:c.Idle) (htags:c.TagsNamed) : Passes lost [] [] c c := by
 refine ⟨hc,.refl (Setting.fits_file hc htags),fun _ => .refl fun n hn => ?_⟩
 cases hn

lemma trans (h:Passes lost fs bs c d) (h':Passes lost fs' bs' d e) :
  Passes lost (fs ++ fs') (bs ++ bs') c e := by
 have hregroup:∀ {α:Type} (l₁ l₂ l₃ l₄:List α),
   (l₁ ++ l₂) ++ (l₃ ++ l₄) ⊆ (l₁ ++ l₃) ++ (l₂ ++ l₄) := by
  intro α l₁ l₂ l₃ l₄ a ha
  simp only [List.mem_append] at ha ⊢
  exact or_or_or_comm.mp ha
 refine ⟨h'.idle,(h.reaches.trans h'.reaches).mono (Site.topsAll_subset (hregroup ..)),
  fun herrors => ?_⟩
 have hd:d.errorCount = 0:=Nat.le_zero.mp (herrors ▸ h'.reaches.retains.errors)
 have hboth:=(h.completes hd).trans h.reaches.retains (h'.completes herrors) h'.reaches.retains
 rw [Site.nodesAll_append,Site.nodesAll_append,List.map_append,List.map_append,
  Site.topsAll_append]
 exact hboth.mono (hregroup ..) (List.Subset.refl _)

lemma reported {f:Fault} (hd:d.Idle) (h:(Setting.file lost).Reaches (fs ++ bs) c d) :
  Passes lost fs bs c (d.report f) :=
 ⟨hd.report f,h.calm (.report h.fits f),fun herrors => absurd herrors (Nat.succ_ne_zero _)⟩

lemma of_ok {α:Type} {x:Check α} {a:α} (hx:(Setting.file lost).Resolves fs x)
  (hlost:lostAll false false fs ⊆ lost) (hc:c.Idle) (htags:c.TagsNamed)
  (hrun:x c = .ok a d) (hd:d.Idle) : Passes lost fs [] c d := by
 have hends:=hx [] hlost c (Setting.fits_file hc htags) fun _ _ hn => nomatch hn
 rw [hrun] at hends
 obtain ⟨reaches,completes⟩:=hends
 refine ⟨hd,(List.append_nil fs).symm ▸ reaches,fun herrors => ?_⟩
 exact (completes herrors).mono (List.subset_append_left _ _) (List.Subset.refl _)

lemma of_error {α:Type} {x:Check α} {f:Fault} (hx:(Setting.file lost).Resolves fs x)
  (hlost:lostAll false false fs ⊆ lost) (hc:c.Idle) (htags:c.TagsNamed)
  (hrun:x c = .error f d) (hd:d.Idle) : Passes lost fs bs c (d.report f) := by
 have hends:=hx [] hlost c (Setting.fits_file hc htags) fun _ _ hn => nomatch hn
 rw [hrun] at hends
 obtain - | reaches:=hends
 exact reported hd (reaches.mono (Site.topsAll_subset (List.subset_append_left _ _)))

end Passes

lemma Checker.Quiet.enterFunction (hc:c.function = none) (name:String) (ret:CType) :
  c.Quiet (c.enterFunction name ret) := by
 refine ⟨{ Checker.Retains.refl c with enumerators := fun i hi => ?_ },rfl,rfl⟩
 rcases hi with hi | ⟨f,hf,-⟩ | hi
 · exact Or.inl hi
 · cases hc.symm.trans hf
 · exact Or.inr (.inr hi)

lemma Checker.Quiet.leaveFunction (c:Checker) (t:CType) : c.Quiet (c.leaveFunction t) :=
 ⟨.leaveFunction c t,(Ledger.same_leaveFunction c t).definedRecords,
  (Ledger.same_leaveFunction c t).definedEnums⟩

lemma Checker.TagsNamed.leaveFunction (h:c.TagsNamed) (t:CType) :
  (c.leaveFunction t).TagsNamed :=
 leaveFunction_keeps (P := Checker.TagsNamed) (fun _ _ _ hd => hd) (fun _ hd => hd)
  (fun _ _ hd => hd) t h

lemma Passes.of_body {c₁ d₁:Checker} (henter:c.Quiet c₁)
  (hreaches:(Setting.body lost).Reaches bs c₁ d₁)
  (hcompletes:d₁.errorCount = 0 →
   Completes lost ((nodesAll bs).map (true,·)) (topsAll bs) c₁ d₁)
  (hleave:d₁.Quiet d) (hd:d.Idle) (htags:d.TagsNamed) : Passes lost [] bs c d := by
 refine ⟨hd,⟨Setting.fits_file hd htags,
  henter.retains.trans (hreaches.retains.trans hleave.retains),fun key hnew hc => ?_⟩,
  fun herrors => ?_⟩
 · rw [hleave.defines] at hnew
   rw [← henter.defines] at hc ⊢
   exact hreaches.origin key hnew hc
 · have hd₁:d₁.errorCount = 0:=Nat.le_zero.mp (herrors ▸ hleave.retains.errors)
   have hbody:=henter.first hreaches.retains (hcompletes hd₁)
   exact (hleave.last (henter.retains.trans hreaches.retains) hbody).mono (List.Subset.refl _)
    (List.nil_subset _)

lemma passes_checkBody (head:FunctionDecl) (body:Block) (t:CType) (f:Signature)
  (hlost:lostAll true false (Stmt.sitesAll body.stmts) ⊆ lost) (hc:c.Idle)
  (htags:c.TagsNamed) (hrun:checkBody head body t f c = .ok () d) (hd:d.Idle) :
  Passes lost [] (Stmt.sitesAll body.stmts) c d := by
 have hbody:(Setting.body lost).Resolves (Stmt.sitesAll body.stmts) (reporting (inScope do
   declareParams head.type.params f.params
   checkBlock body)) := by
  refine (Setting.Resolves.inScope rfl ?_).reporting
  refine (Setting.Resolves.calm (.declareParams _ _)).first fun _ => ?_
  exact ((Setting.body lost).resolves_checkStmts rfl body.stmts).inScope rfl
 have hends:=hbody [] hlost (c.enterFunction head.name.name f.ret)
  ⟨htags,fun _ => rfl,(fun h => nomatch h)⟩ fun _ _ hn => nomatch hn
 rw [reporting_eq_ok] at hends
 obtain ⟨reaches,completes⟩:=hends
 rw [checkBody_eq] at hrun
 cases hrun
 exact .of_body (.enterFunction hc.function _ _) reaches completes (.leaveFunction _ t) hd
  (reaches.fits.tags.leaveFunction t)

lemma Check.Restores.checkHeading (head:FunctionDecl) : Restores (checkHeading head) := by
 refine (of_meets (restored.resolveType head.type)).bind fun t => ?_
 refine (of_looks (.of (.definedSignature head t False.elim))).bind fun f => ?_
 refine (of_looks (.of (.paramsNamed _ _))).bind fun _ => ?_
 refine (of_looks (.of (.returnsComplete _ _))).bind fun _ => ?_
 exact (of_meets (enters_restored.declareFunction _ _ _ _)).bind fun _ => of_looks (.pure _)

lemma passes_checkExternal (x:External) (hfile:lostAll false false x.fileSites ⊆ lost)
  (hbody:lostAll true false x.blockSites ⊆ lost) (hc:c.Idle) (htags:c.TagsNamed) :
  Passes lost x.fileSites x.blockSites c ((reporting (checkExternal x)).after c) := by
 have hidle:((checkExternal x).after c).Idle:=settles_checkExternal x c hc
 cases x with
 | declaration decl =>
  have hdecl:=(Setting.file lost).resolves_checkDeclaration decl
  unfold Check.after Check.reporting
  unfold Check.after at hidle
  rw [checkExternal] at hidle ⊢
  cases hrun : checkDeclaration decl c with
  | ok a d =>
   rw [hrun] at hidle
   exact .of_ok hdecl hfile hc htags hrun hidle
  | error f d =>
   rw [hrun] at hidle
   exact .of_error hdecl hfile hc htags hrun hidle
 | definition head body =>
  have hhead:=(Setting.file lost).resolves_checkHeading head
  have hidle':=hc.restored (Restores.checkHeading head c)
  unfold Check.after Check.reporting
  unfold Check.after at hidle hidle'
  rw [checkExternal,checkDefinition_eq] at hidle ⊢
  cases hrun : checkHeading head c with
  | error f d =>
   rw [hrun] at hidle'
   simp only [Bind.bind,EStateM.bind,hrun]
   exact .of_error hhead hfile hc htags hrun hidle'
  | ok h d =>
   rw [hrun] at hidle'
   have hend:=checkBody_eq head body h.1 h.2 d
   rw [bind_ok hrun,hend] at hidle ⊢
   have hfirst:=Passes.of_ok hhead hfile hc htags hrun hidle'
   have hboth:=hfirst.trans (passes_checkBody head body h.1 h.2 hbody hidle'
    hfirst.reaches.fits.tags hend hidle)
   rwa [List.append_nil,List.nil_append] at hboth

lemma passes_analyze (u:ProgramUnit) (hc:c.Idle) (htags:c.TagsNamed) :
  Passes u.lost u.fileSites u.blockSites c (c.analyze u) := by
 rw [Checker.analyze_eq]
 have hall:∀ {es:List External} {c:Checker}, c.Idle → c.TagsNamed →
   lostAll false false (es.flatMap External.fileSites) ⊆ u.lost →
   lostAll true false (es.flatMap External.blockSites) ⊆ u.lost →
   Passes u.lost (es.flatMap External.fileSites) (es.flatMap External.blockSites) c
    ((checkExternals es).after c) := by
  intro es c hc htags hfile hbody
  induction es generalizing c with
  | nil => exact .refl hc htags
  | cons x es ih =>
   rw [List.flatMap_cons,Site.lostAll_append,List.append_subset] at hfile hbody
   have hfirst:=passes_checkExternal x hfile.1 hbody.1 hc htags
   rw [after_checkExternals_cons]
   exact hfirst.trans (ih hfirst.idle hfirst.reaches.fits.tags hfile.2 hbody.2)
 exact hall hc htags (List.subset_append_left _ _) (List.subset_append_right _ _)

end CCheck
