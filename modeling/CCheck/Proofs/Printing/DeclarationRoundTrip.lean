import CCheck.Proofs.Printing.Parameters

/-! # Printed declarations are read back

By induction on the type: if its parameters are read back, so are its suffixes, and then the
declarator that it is printed as. -/

set_option autoImplicit false

namespace CCheck

open Grammar

variable {names:TypeNames} {rest:List TokenKind} {t:TypeExpr}

variable {abstract:Bool} {d:Nat} {inner ts:List TokenKind} {p:Param} {params:List (List TokenKind)}

namespace TypeExpr.Declarable

lemma base_eq (ht:t.Declarable) : ∃ b q s, t.base = ⟨.base b,q,s⟩ := by
 induction ht with
 | base b q span => exact ⟨b,q,span,rfl⟩
 | pointer q span _ ih => exact ih
 | array span _ _ ih => exact ih
 | function span _ _ _ ih => exact ih

lemma reads_base (ht:t.Declarable) (hrest:WordsEnd rest) (r:Reader) (allowed:Bool) :
  Reads names (specifiers r allowed) t.printBase rest
   fun x => x.storage = none ∧ x.isInline = false ∧
    x.type.withoutPlaces = t.base.withoutPlaces := by
 obtain ⟨b,q,s,hbase⟩:=ht.base_eq
 unfold TypeExpr.printBase
 rw [hbase]
 exact reads_specifiers b q hrest r allowed

end TypeExpr.Declarable

lemma print_words (b:BaseType) (q:Qualifiers) :
  ∃ w ts, q.print ++ b.print = .keyword w :: ts := by
 obtain ⟨c,v,r⟩:=q
 cases c with
 | true => exact ⟨_,_,rfl⟩
 | false =>
  cases v with
  | true => exact ⟨_,_,rfl⟩
  | false =>
   cases r with
   | true => exact ⟨_,_,rfl⟩
   | false => cases b <;> exact ⟨_,_,rfl⟩

lemma words_eq_void {b:BaseType} {q:Qualifiers}
  (h:q.print ++ b.print = .keyword .kwVoid :: ts) : b = .void ∧ q = .none ∧ ts = [] := by
 obtain ⟨c,v,r⟩:=q
 cases c with
 | true => cases h
 | false =>
  cases v with
  | true => cases h
  | false =>
   cases r with
   | true => cases h
   | false =>
    cases b with
    | void =>
     cases h
     exact ⟨rfl,rfl,rfl⟩
    | _ => cases h

lemma TypeExpr.Declarable.printBase_starts (ht:t.Declarable) :
  ∃ w ts, t.printBase = .keyword w :: ts := by
 obtain ⟨b,q,s,hbase⟩:=ht.base_eq
 unfold TypeExpr.printBase
 rw [hbase]
 exact print_words b q

/-! ### How declarators begin -/

def StartsDeclarator (ts:List TokenKind) : Prop :=
 ∃ k us, ts = k :: us ∧
  ((∃ name, k = .ident name) ∨ k = .punct .star ∨ k = .punct .lparen ∨ k = .punct .lbracket)

lemma StartsDeclarator.append (h:StartsDeclarator ts)
  (us:List TokenKind) : StartsDeclarator (ts ++ us) := by
 obtain ⟨k,vs,rfl,hk⟩:=h
 exact ⟨k,vs ++ us,rfl,hk⟩

lemma StartsDeclarator.wordsEnd (h:StartsDeclarator ts) :
  WordsEnd ts := by
 obtain ⟨k,us,rfl,⟨name,rfl⟩ | rfl | rfl | rfl⟩:=h
 · exact wordsEnd_ident _ _
 all_goals exact wordsEnd_punct _ _

lemma StartsDeclarator.ne (h:StartsDeclarator ts) {p:Punctuator}
  (hp:p = .rparen ∨ p = .semicolon) : ts.headD .eof ≠ .punct p := by
 obtain ⟨k,us,rfl,hk⟩:=h
 rw [List.headD_cons]
 obtain rfl | rfl:=hp <;> obtain ⟨name,rfl⟩ | rfl | rfl | rfl := hk <;> simp

lemma startsDeclarator_beforeSuffix {us:List TokenKind} (starred:Bool)
  (hts:ts = [] ∨ StartsDeclarator ts) (hus:StartsDeclarator us) :
  StartsDeclarator (beforeSuffix starred ts ++ us) := by
 cases starred with
 | true => exact ⟨_,_,rfl,.inr (.inr (.inl rfl))⟩
 | false =>
  obtain rfl | hts:=hts
  · exact hus
  · exact hts.append us

lemma startsDeclarator_printArray (size:Option Expr) (vla:Bool) :
  StartsDeclarator (printArray size vla) :=
 ⟨_,_,rfl,.inr (.inr (.inr rfl))⟩

lemma startsDeclarator_printFunction (params:List (List TokenKind))
  (variadic prototyped:Bool) : StartsDeclarator (printFunction params variadic prototyped) :=
 ⟨_,_,rfl,.inr (.inr (.inl rfl))⟩

namespace TypeExpr.Declarable

lemma startsDeclarator (ht:t.Declarable) (starred:Bool)
  (h:StartsDeclarator inner) : StartsDeclarator (t.printAround starred inner) := by
 induction ht generalizing starred inner with
 | base b q span => exact h
 | pointer q span _ ih => exact ih _ ⟨_,_,rfl,.inr (.inl rfl)⟩
 | array span _ _ ih =>
  exact ih _ (startsDeclarator_beforeSuffix starred (.inr h) (startsDeclarator_printArray _ _))
 | function span _ _ _ ih =>
  exact ih _ (startsDeclarator_beforeSuffix starred (.inr h)
   (startsDeclarator_printFunction _ _ _))

lemma startsDeclarator_of_nil (ht:t.Declarable) :
  t = t.base ∧ t.printAround false [] = [] ∨ StartsDeclarator (t.printAround false []) := by
 cases ht with
 | base b q span => exact .inl ⟨rfl,rfl⟩
 | pointer q span ht => exact .inr (ht.startsDeclarator _ ⟨_,_,rfl,.inr (.inl rfl)⟩)
 | array span ht _ => exact .inr (ht.startsDeclarator _ (startsDeclarator_printArray _ _))
 | function span ht _ _ =>
  exact .inr (ht.startsDeclarator _ (startsDeclarator_printFunction _ _ _))

lemma startsDeclarator_of_name (ht:t.Declarable) (i:Ident) :
  StartsDeclarator (t.printAround false (printName (some i))) :=
 ht.startsDeclarator _ ⟨_,_,rfl,.inl ⟨i.name,rfl⟩⟩

lemma wordsEnd_printAround (ht:t.Declarable) (name:Option Ident)
  (hrest:DeclaratorEnds rest) : WordsEnd (t.printAround false (printName name) ++ rest) := by
 cases name with
 | some i => exact ((ht.startsDeclarator_of_name i).append rest).wordsEnd
 | none =>
  obtain ⟨-,hnil⟩ | hstarts:=ht.startsDeclarator_of_nil
  · have hprint:t.printAround false (printName none) = []:=hnil
    rw [hprint]
    exact hrest.wordsEnd
  · exact (hstarts.append rest).wordsEnd

lemma reads_printAround (ht:t.Declarable) {name:Option Ident}
  (hproper:(t.declarator (.ofName name)).Proper abstract) (hnames:names.Plain)
  (hd:(t.printAround false (printName name)).length ≤ d) (hrest:DeclaratorEnds rest) :
  Reads names (Grammar.declarator (read d) abstract) (t.printAround false (printName name)) rest
   fun d' => ∀ u : TypeExpr, u.withoutPlaces = t.base.withoutPlaces →
    unplaced (d'.apply u) = unplaced (name,t) := by
 have hprint:(t.declarator (.ofName name)).print = t.printAround false (printName name) := by
  rw [ht.print_declarator]
  show t.printAround false ([] ++ printName name ++ []) = _
  rw [List.nil_append,List.append_nil]
 rw [← hprint] at hd ⊢
 refine (hproper.reads hnames hd hrest).mono fun d' hd' u hu => ?_
 calc unplaced (d'.apply u) = unplaced ((t.declarator (.ofName name)).apply t.base) :=
       Declarator.apply_congr hd' hu
   _ = unplaced ((Declarator.ofName name).apply t) := ht.apply_declarator _
   _ = unplaced (name,t) := rfl

end TypeExpr.Declarable

lemma readsInto_parameter (ht:p.type.Declarable)
  (hproper:(p.type.declarator (.ofName p.name)).Proper true) (hnames:names.Plain)
  (hd:p.print.length ≤ d) (hrest:DeclaratorEnds rest) :
  ReadsInto names (names.afterParam p.name) (parameter (read d)) p.print rest
   fun p' => p'.withoutPlaces = p.withoutPlaces := by
 obtain ⟨name,type,span⟩:=p
 dsimp only at ht hproper
 have hwords:=ht.wordsEnd_printAround name hrest
 obtain ⟨w,ts,hstarts⟩:=ht.printBase_starts
 have hlength:(type.printAround false (printName name)).length < d := by
  rw [Param.print,hstarts,List.length_append,List.length_cons] at hd
  omega
 obtain ⟨d,rfl⟩ : ∃ n, d = n + 1:=⟨d - 1,by omega⟩
 have hdeclarator:=ht.reads_printAround hproper hnames (Nat.le_of_lt_succ hlength) hrest
 have hspecifiers:=@TypeExpr.Declarable.reads_base names _ _ ht hwords (read d) true
 unfold parameter
 refine ReadsInto.look Reads.here fun start _ => ?_
 refine ReadsInto.bind hspecifiers fun specs hspecs => ?_
 rw [hspecs.1]
 refine ReadsInto.lookAfter hdeclarator fun d' hd' => ?_
 obtain ⟨hname,htype⟩:=unplaced_eq (hd' specs.type hspecs.2.2)
 generalize d'.apply specs.type = x at hname htype ⊢
 obtain ⟨name',type'⟩:=x
 dsimp only at hname htype ⊢
 cases name with
 | none =>
  obtain rfl : name' = none:=Option.map_eq_none_iff.mp hname
  refine Reads.look Reads.previous fun _ _ => .pure ?_
  exact congrArg (Param.mk none · .nowhere) htype
 | some i =>
  obtain ⟨i',rfl,hi'⟩ : ∃ i', name' = some i' ∧ i'.name = i.name:=
   Option.map_eq_some_iff.mp hname
  unfold TypeNames.afterParam
  dsimp only
  rw [← hi']
  refine ReadsInto.bind (ReadsInto.declareName i'.name false) fun _ _ => ?_
  refine Reads.look Reads.previous fun _ _ => .pure ?_
  show Param.mk (some ⟨i'.name,.nowhere⟩) type'.withoutPlaces .nowhere =
   Param.mk (some ⟨i.name,.nowhere⟩) type.withoutPlaces .nowhere
  rw [hi',htype]

lemma isVoid_of_print (ht:p.type.Declarable) (us:List TokenKind)
  (hhead:(p.print ++ us).headD .eof = .keyword .kwVoid)
  (hpeek:peekKind (p.print ++ us) = some (.punct .rparen)) :
  p.IsVoid ∧ us.headD .eof = .punct .rparen := by
 obtain ⟨name,type,span⟩:=p
 dsimp only at ht
 obtain ⟨b,q,s,hbase⟩:=ht.base_eq
 have hprint:Param.print ⟨name,type,span⟩ ++ us =
   q.print ++ b.print ++ (type.printAround false (printName name) ++ us) := by
  rw [Param.print,TypeExpr.printBase,hbase,List.append_assoc]
 rw [hprint] at hhead hpeek
 obtain ⟨w,ts,hwords⟩:=print_words b q
 rw [hwords] at hhead hpeek
 obtain rfl : w = .kwVoid:=TokenKind.keyword.inj hhead
 obtain ⟨rfl,rfl,rfl⟩:=words_eq_void hwords
 have hnext:(type.printAround false (printName name) ++ us).headD .eof = .punct .rparen:=
  Option.some.inj hpeek
 cases name with
 | some i => exact absurd hnext (((ht.startsDeclarator_of_name i).append us).ne (.inl rfl))
 | none =>
  obtain ⟨htype,hnil⟩ | hstarts:=ht.startsDeclarator_of_nil
  · have hprint:type.printAround false (printName none) = []:=hnil
    rw [hprint] at hnext
    exact ⟨⟨s,span,by rw [htype,hbase]⟩,hnext⟩
  · exact absurd hnext ((hstarts.append us).ne (.inl rfl))

lemma Param.recovered (ht:p.type.Declarable)
  (hproper:(p.type.declarator (.ofName p.name)).Proper true) : p.Recovered where
 starts := by
  obtain ⟨name,type,span⟩:=p
  obtain ⟨w,ts,hstarts⟩:=ht.printBase_starts
  exact ⟨w,_,by rw [Param.print,hstarts]; rfl⟩
 void := isVoid_of_print ht
 reads _ _ _ hnames hd hrest := readsInto_parameter ht hproper hnames hd hrest

lemma TypeExpr.Declarable.proper (ht:t.Declarable) {d:Declarator}
  (hd:d.Proper abstract) : (t.declarator d).Proper abstract := by
 induction ht generalizing abstract d with
 | base b q span => exact hd
 | pointer q span _ ih => exact ih (hd.addStar q)
 | array span _ hsize ih => exact ih (hd.addSuffix (recovered_array hsize span))
 | function span _ hparams hclause ih ihparams =>
  have hrecovered (p:Param) (hp:p ∈ _) : p.Recovered:=
   Param.recovered (hparams p hp) (ihparams p hp (.flat [] (fun _ => rfl) (by simp)))
  exact ih (hd.addSuffix (recovered_function hclause hrecovered span))

/-! ### Programs -/

def Declaration.withoutPlaces (d:Declaration) : Declaration := d.mapSpans fun _ => .nowhere

/-- What declares a name of a type: a function if the type is one, otherwise a variable, with
neither storage class nor initializer. -/
def TypeExpr.declaration (t:TypeExpr) (name:String) : Declaration :=
 if t.isFunction then .func ⟨⟨name,.nowhere⟩,t.withoutPlaces,none,false,.nowhere⟩
 else .var ⟨⟨name,.nowhere⟩,t.withoutPlaces,none,none,.nowhere⟩

lemma TypeExpr.isFunction_congr {t':TypeExpr} (h:t'.withoutPlaces = t.withoutPlaces) :
  t'.isFunction = t.isFunction := by
 rw [← TypeExpr.mapSpans_isFunction (fun _ => .nowhere) t,
  ← TypeExpr.mapSpans_isFunction (fun _ => .nowhere) t']
 exact congrArg TypeExpr.isFunction h

lemma readsInto_initDeclarator (ht:t.Declarable) (hnames:names.Plain) (name:String)
  (hd:(t.printAround false [.ident name]).length ≤ d) (start:Span)
  {specs:Specifiers} (hstorage:specs.storage = none) (hinline:specs.isInline = false)
  (htype:specs.type.withoutPlaces = t.base.withoutPlaces) :
  ReadsInto names (names.declare name false) (initDeclarator (read d) start specs)
   (t.printAround false [.ident name]) (.punct .semicolon :: rest)
   fun x => x.withoutPlaces = t.declaration name := by
 have hproper:(t.declarator (.ofName (some ⟨name,.nowhere⟩))).Proper false:=
  ht.proper (.flat [] (fun h => nomatch h) (by simp))
 refine ReadsInto.lookAfter (ht.reads_printAround hproper hnames hd (Or.inr (.inr rfl)))
  fun d' hd' => ?_
 obtain ⟨hname,htype'⟩:=unplaced_eq (hd' specs.type htype)
 generalize d'.apply specs.type = x at hname htype' ⊢
 obtain ⟨name',type⟩:=x
 obtain ⟨i,rfl,rfl⟩ : ∃ i, name' = some i ∧ i.name = name:=Option.map_eq_some_iff.mp hname
 dsimp only at htype' ⊢
 rw [hstorage,if_neg (by simp)]
 refine ReadsInto.bind (ReadsInto.declareName i.name false) fun _ _ => ?_
 have hfunction:=TypeExpr.isFunction_congr htype'
 unfold TypeExpr.declaration
 rw [hfunction]
 cases t.isFunction with
 | true =>
  refine Reads.look Reads.previous fun _ _ => .pure ?_
  show Declaration.func ⟨⟨i.name,.nowhere⟩,type.withoutPlaces,none,specs.isInline,.nowhere⟩
   = _
  rw [htype',hinline]
  rfl
 | false =>
  refine Reads.look (Reads.consume_absent (by simp)) fun b hb => ?_
  obtain rfl:=hb
  refine Reads.look (Q := fun init => init = none) (.pure rfl) fun init hinit => ?_
  obtain rfl:=hinit
  refine Reads.look Reads.previous fun _ _ => .pure ?_
  show Declaration.var ⟨⟨i.name,.nowhere⟩,type.withoutPlaces,none,none,.nowhere⟩ = _
  rw [htype']
  rfl

lemma reads_moreDeclarators (d:Nat) (start:Span) (specs:Specifiers)
  (first:Declaration) :
  Reads names (moreDeclarators (read d) start specs first) [.punct .semicolon] rest
   fun ds => ds = [first] := by
 refine Reads.look (Q := fun ds => ds = [first]) (Reads.loop_done ?_) fun ds hds => ?_
 · refine Reads.look (Reads.consume_absent (by simp)) fun b hb => ?_
   obtain rfl:=hb
   exact .pure rfl
 · exact (Reads.expect .semicolon).bind fun _ _ => .pure hds

lemma TypeExpr.Declarable.readsInto_external (ht:t.Declarable) (hnames:names.Plain)
  (name:String) (hd:(t.printDeclaration name).length ≤ d) :
  ReadsInto names (names.declare name false) (externalDeclaration (read d))
   (t.printDeclaration name) rest
   fun es => ∃ x, es = [.declaration x] ∧ x.withoutPlaces = t.declaration name := by
 have hlength:(t.printAround false [.ident name]).length ≤ d := by
  unfold TypeExpr.printDeclaration at hd
  rw [List.length_append,List.length_append] at hd
  omega
 have hstarts:StartsDeclarator
   (t.printAround false [.ident name] ++ [.punct .semicolon] ++ rest) :=
  ((ht.startsDeclarator_of_name ⟨name,.nowhere⟩).append _).append _
 unfold TypeExpr.printDeclaration
 rw [List.append_assoc]
 refine ReadsInto.look Reads.here fun start _ => ?_
 have hspecifiers:=@TypeExpr.Declarable.reads_base names _ _ ht hstarts.wordsEnd (read d) true
 refine ReadsInto.bind hspecifiers fun specs hspecs => ?_
 refine ReadsInto.look (Reads.consume_absent (hstarts.ne (.inr rfl))) fun b hb => ?_
 obtain rfl:=hb
 refine ReadsInto.bind (readsInto_initDeclarator ht hnames name hlength start hspecs.1 hspecs.2.1
  hspecs.2.2) fun first hfirst => ?_
 have hmore:Reads (names.declare name false)
   (do return (← moreDeclarators (read d) start specs first).map External.declaration)
   [.punct .semicolon] rest
   fun es => ∃ x, es = [.declaration x] ∧ x.withoutPlaces = t.declaration name := by
  refine (reads_moreDeclarators d start specs first).lookAfter fun ds hds => .pure ?_
  exact ⟨first,congrArg (List.map External.declaration) hds,hfirst⟩
 cases first with
 | func head =>
  refine Reads.look (Reads.check .lbrace) fun b hb => ?_
  obtain rfl : b = false:=hb
  exact hmore
 | _ => exact hmore

lemma Reads.atEnd : Reads names Parser.atEnd [] rest fun b => b = (rest.headD .eof).isEof :=
 Reads.kind.look fun _ hk => .pure (congrArg TokenKind.isEof hk)

def externalStep (r:Reader) (es:List External) : Parser (ForInStep (List External)) := do
 if ← Parser.atEnd then return .done es
 else if ← Parser.consume .semicolon then return .yield es
 else return .yield (es ++ (← externalDeclaration r))

lemma externals_eq (r:Reader) : externals r = Parser.loop (externalStep r) [] := rfl

lemma TypeExpr.Declarable.printDeclaration_starts (ht:t.Declarable) (name:String) :
  ∃ w ts, t.printDeclaration name = .keyword w :: ts := by
 obtain ⟨w,ts,hbase⟩:=ht.printBase_starts
 unfold TypeExpr.printDeclaration
 rw [hbase]
 exact ⟨w,_,rfl⟩

lemma TypeExpr.Declarable.readsInto_externals (ht:t.Declarable) (hnames:names.Plain)
  (name:String) (hd:(t.printDeclaration name).length ≤ d) :
  ReadsInto names (names.declare name false) (externals (read d)) (t.printDeclaration name) []
   fun es => ∃ x, es = [.declaration x] ∧ x.withoutPlaces = t.declaration name := by
 intro s hs
 obtain ⟨w,ts,hprint⟩:=ht.printDeclaration_starts name
 have hstep:ReadsInto names (names.declare name false) (externalStep (read d) [])
   (t.printDeclaration name) []
   fun x => ∃ x', x = .yield [.declaration x'] ∧ x'.withoutPlaces = t.declaration name := by
  have hat:Reads names Parser.atEnd [] (t.printDeclaration name ++ []) fun b => b = false := by
   rw [hprint]
   exact Reads.atEnd
  refine ReadsInto.look hat fun b hb => ?_
  obtain rfl:=hb
  have hno:(t.printDeclaration name ++ []).headD .eof ≠ .punct .semicolon := by
   rw [hprint]
   simp
  refine ReadsInto.look (Reads.consume_absent hno) fun b hb => ?_
  obtain rfl:=hb
  refine ReadsInto.lookAfter (ht.readsInto_external hnames name hd) fun es hes => ?_
  obtain ⟨x,rfl,hx⟩:=hes
  exact Reads.pure ⟨x,rfl,hx⟩
 have hend (es:List External) :
   Reads (names.declare name false) (externalStep (read d) es) [] [] fun x => x = .done es := by
  refine Reads.look Reads.atEnd fun b hb => ?_
  obtain rfl : b = true:=hb
  exact Reads.pure rfl
 obtain ⟨_,s',hs',⟨x,rfl,hx⟩,hbefore⟩:=hstep s hs
 obtain ⟨_,s'',hs'',rfl,hbefore'⟩:=hend [.declaration x] s' hbefore
 have hshorter:s'.stream.rest.length < s.stream.rest.length := by
  rw [hs.length,hbefore.length,hprint,List.cons_append,List.length_cons]
  exact Nat.succ_pos _
 rw [externals_eq]
 exact ⟨_,s'',(LoopRuns.next hs' hshorter (.done hs'')).loop,⟨x,rfl,hx⟩,hbefore'⟩

/-! ### Fresh parsers -/

lemma TypeExpr.Declarable.eof_not_mem_printBase (ht:t.Declarable) : .eof ∉ t.printBase := by
 obtain ⟨b,q,s,hbase⟩:=ht.base_eq
 unfold TypeExpr.printBase
 rw [hbase]
 simp [Qualifiers.print,BaseType.print]

lemma eof_not_mem_beforeSuffix (starred:Bool) (h:.eof ∉ ts) :
  .eof ∉ beforeSuffix starred ts := by
 unfold beforeSuffix
 split <;> simp [inParens,h]

lemma PlainSize.eof_not_mem_printArray {size:Option Expr} {vla:Bool}
  (h:PlainSize size vla) : .eof ∉ printArray size vla := by
 cases h with
 | missing => simp [printArray,printSize]
 | star => simp [printArray,printSize]
 | literal n span =>
  have hprint:.eof ∉ (Expr.literal (.int n span)).print:=
   (Expr.Printable.literal (.int n span)).eof_not_mem_print
  simp [printArray,printSize,Expr.printAt,eof_not_mem_enclosed _ _ hprint]

lemma eof_not_mem_printParams (variadic:Bool)
  (h:∀ ts ∈ params, .eof ∉ ts) : .eof ∉ printParams params variadic := by
 induction params with
 | nil => cases variadic <;> simp [printParams]
 | cons ts params ih =>
  have hts:=h ts List.mem_cons_self
  have hparams:=ih fun us hus => h us (List.mem_cons_of_mem ts hus)
  by_cases hmore : params ≠ [] ∨ variadic = true
  · rw [printParams_cons hmore]
    simp [hts,hparams]
  · obtain ⟨rfl,rfl⟩ : params = [] ∧ variadic = false := by simpa using hmore
    simpa [printParams] using hts

lemma eof_not_mem_printFunction (variadic prototyped:Bool)
  (h:∀ ts ∈ params, .eof ∉ ts) : .eof ∉ printFunction params variadic prototyped := by
 have hparams:=eof_not_mem_printParams variadic h
 unfold printFunction printClause inParens
 split
 · simp
 · split <;> simp [hparams]

lemma TypeExpr.Declarable.eof_not_mem_printAround (ht:t.Declarable) (starred:Bool)
  (h:.eof ∉ inner) : .eof ∉ t.printAround starred inner := by
 induction ht generalizing starred inner with
 | base b q span => exact h
 | pointer q span _ ih => exact ih _ (by simp [printStar,Qualifiers.print,h])
 | array span _ hsize ih =>
  refine ih _ (List.not_mem_append (eof_not_mem_beforeSuffix starred h) ?_)
  exact hsize.eof_not_mem_printArray
 | function span _ hparams _ ih ihparams =>
  refine ih _ (List.not_mem_append (eof_not_mem_beforeSuffix starred h) ?_)
  refine eof_not_mem_printFunction _ _ fun ts hts => ?_
  rw [Param.printAll_eq] at hts
  obtain ⟨⟨name,type,span⟩,hp,rfl⟩:=List.mem_map.mp hts
  refine List.not_mem_append (hparams _ hp).eof_not_mem_printBase ?_
  exact ihparams _ hp _ (by cases name <;> simp [printName])

/-- A fresh parser reads a printed declaration as one declaration of the name, with the type
that was printed, at places of its own. -/
theorem Parser.unit_printDeclaration (t:TypeExpr) (name:String) (ts:List Token)
  (finish:List TokenKind) (ht:t.Declarable)
  (hts:ts.map (·.kind) = t.printDeclaration name ++ finish)
  (hfinish:finish = [] ∨ finish = [.eof]) :
  ∃ d s, Parser.unit (.ofTokens ts) = .ok ⟨[.declaration d]⟩ s ∧
   d.withoutPlaces = t.declaration name ∧ s.stream.rest = [] := by
 have hno:.eof ∉ t.printDeclaration name := by
  have haround:.eof ∉ t.printAround false [.ident name]:=
   ht.eof_not_mem_printAround false (by simp)
  simp [TypeExpr.printDeclaration,ht.eof_not_mem_printBase,haround]
 have hbefore:=ParserState.before_ofTokens hts hfinish hno
 have hplain:TypeNames.start.Plain:=⟨by simp [TypeNames.start],TypeNames.isType_start⟩
 have hlength:=hbefore.length
 rw [← List.append_nil (t.printDeclaration name)] at hbefore
 obtain ⟨_,s,hparse,⟨d,rfl,hd⟩,hend⟩:=
  ht.readsInto_externals hplain name (Nat.le_succ _) _ hbefore
 refine ⟨d,s,?_,hd,List.map_eq_nil_iff.mp hend.kinds⟩
 unfold Parser.unit Grammar.withReader
 rw [hlength]
 exact Parser.bind_ok hparse

/-- `int *(*const x[3])(char, const int *p, ...);` -/
theorem Parser.unit_printDeclaration_table :
  ∃ d s,
   Parser.unit (.ofTokens (([.keyword .kwInt,.punct .star,.punct .lparen,.punct .star,
    .keyword .kwConst,.ident "x",.punct .lbracket,.int ⟨3,.decimal,false,0⟩,
    .punct .rbracket,.punct .rparen,.punct .lparen,.keyword .kwChar,.punct .comma,
    .keyword .kwConst,.keyword .kwInt,.punct .star,.ident "p",.punct .comma,
    .punct .ellipsis,.punct .rparen,.punct .semicolon,.eof] :
     List TokenKind).map fun k => ⟨k,"",.nowhere⟩)) = .ok ⟨[.declaration d]⟩ s ∧
   d.withoutPlaces = .var ⟨⟨"x",.nowhere⟩,
    ⟨.array
     ⟨.pointer
      ⟨.function ⟨.pointer ⟨.base .int,.none,.nowhere⟩,.none,.nowhere⟩
       [⟨none,⟨.base .char,.none,.nowhere⟩,.nowhere⟩,
        ⟨some ⟨"p",.nowhere⟩,
         ⟨.pointer ⟨.base .int,⟨true,false,false⟩,.nowhere⟩,.none,.nowhere⟩,
         .nowhere⟩]
       true true,.none,.nowhere⟩,
      ⟨true,false,false⟩,.nowhere⟩
     (some (.literal (.int ⟨3,.decimal,false,0⟩ .nowhere))) false,.none,.nowhere⟩,
    none,none,.nowhere⟩ ∧
   s.stream.rest = [] :=
 Parser.unit_printDeclaration
  ⟨.array
   ⟨.pointer
    ⟨.function ⟨.pointer ⟨.base .int,.none,.nowhere⟩,.none,.nowhere⟩
     [⟨none,⟨.base .char,.none,.nowhere⟩,.nowhere⟩,
      ⟨some ⟨"p",.nowhere⟩,
       ⟨.pointer ⟨.base .int,⟨true,false,false⟩,.nowhere⟩,.none,.nowhere⟩,
       .nowhere⟩]
     true true,.none,.nowhere⟩,
    ⟨true,false,false⟩,.nowhere⟩
   (some (.literal (.int ⟨3,.decimal,false,0⟩ .nowhere))) false,.none,.nowhere⟩
  "x" _ [.eof]
  (.array _ (.pointer _ _ (.function _ (.pointer _ _ (.base _ _ _))
   (by
    intro p hp
    obtain rfl | rfl : p = _ ∨ p = _ := by simpa using hp
    · exact .base _ _ _
    · exact .pointer _ _ (.base _ _ _))
   (.prototype fun h => nomatch h.1))) (.literal _ _))
  rfl (.inr rfl)

end CCheck
