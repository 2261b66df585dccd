import CCheck.Proofs.Printing.DeclaratorReading

/-! # Printed arrays and parameter lists are read back

A parameter declares its name in the scope of its list. -/

set_option autoImplicit false

namespace CCheck

open Grammar

variable {α:Type} {names names':TypeNames} {ts us rest:List TokenKind}

variable {d:Nat} {params:List Param} {prototyped variadic vla:Bool} {size:Option Expr}

lemma ReadsInto.declareName (name:String) (isType:Bool) :
  ReadsInto names (names.declare name isType) (Parser.declareName name isType) [] rest
   fun _ => True := by
 intro s hs
 refine ⟨(),_,rfl,trivial,hs.kinds,?_⟩
 show s.names.declare name isType = names.declare name isType
 rw [hs.names]

lemma Reads.inScope {p:Parser α} {Q:α → Prop} (hclose:names'.closeScope = names)
  (h:ReadsInto names.openScope names' p ts rest Q) :
  Reads names (Parser.inScope p) ts rest Q := by
 intro s hs
 have hopen:ParserState.Before names.openScope (ts ++ rest)
   { s with names := s.names.openScope } := ⟨hs.kinds,by rw [← hs.names]⟩
 obtain ⟨a,s',hp,ha,hs'⟩:=h _ hopen
 refine ⟨a,{ s' with names := s'.names.closeScope },?_,ha,hs'.kinds,?_⟩
 · unfold Parser.inScope
   rw [hp]
 · show s'.names.closeScope = names
   rw [hs'.names,hclose]

namespace TypeNames

def afterParam (names:TypeNames) (name:Option Ident) : TypeNames :=
 match name with
 | some i => names.declare i.name false
 | none => names

lemma isType_declare_false {names:TypeNames} (h:∀ name, names.isType name = false)
  (declared name:String) : (names.declare declared false).isType name = false := by
 obtain ⟨scopes⟩:=names
 cases scopes with
 | nil => exact h name
 | cons scope scopes =>
  have hname:((scope :: scopes).findSome? (·.lookup name)).getD false = false:=h name
  show ((((declared,false) :: scope) :: scopes).findSome? (·.lookup name)).getD false = false
  rw [List.findSome?_cons,List.lookup_cons]
  by_cases heq : name = declared
  · rw [beq_iff_eq.mpr heq]
    rfl
  · rw [beq_false_of_ne heq]
    rwa [List.findSome?_cons] at hname

lemma Plain.openScope (h:names.Plain) : names.openScope.Plain :=
 ⟨by simp [TypeNames.openScope],h.noType⟩

lemma Plain.afterParam (h:names.Plain) (name:Option Ident) :
  (names.afterParam name).Plain := by
 cases name with
 | none => exact h
 | some i =>
  refine ⟨?_,isType_declare_false h.noType i.name⟩
  obtain ⟨scopes⟩:=names
  cases scopes with
  | nil => exact absurd rfl h.inScope
  | cons scope scopes => simp [TypeNames.afterParam,declare]

lemma foldl_afterParam (scopes:List NameScope) (params:List (Option Ident))
  (scope:NameScope) : ∃ scope' : NameScope,
   params.foldl TypeNames.afterParam ⟨scope :: scopes⟩ = ⟨scope' :: scopes⟩ := by
 induction params generalizing scope with
 | nil => exact ⟨scope,rfl⟩
 | cons name params ih =>
  cases name with
  | none => exact ih scope
  | some i => exact ih ((i.name,false) :: scope)

lemma closeScope_afterParams (h:names.Plain) (params:List (Option Ident)) :
  (params.foldl TypeNames.afterParam names.openScope).closeScope = names := by
 obtain ⟨scope,hscope⟩:=foldl_afterParam names.scopes params []
 have hopen:names.openScope = ⟨[] :: names.scopes⟩:=rfl
 rw [hopen,hscope]
 obtain ⟨scopes⟩:=names
 cases scopes with
 | nil => exact absurd rfl h.inScope
 | cons s ss => rfl

end TypeNames

lemma reads_skipArrayQualifiers (hrest:WordsEnd rest) :
  Reads names skipArrayQualifiers [] rest fun _ => True := by
 refine Reads.mono (Q := fun x => x = ()) (Reads.loop_done ?_) fun _ _ => trivial
 refine Reads.kind.look fun k hk => ?_
 cases k with
 | keyword w => exact absurd hk.symm (hrest w)
 | _ => exact .pure rfl

lemma reads_arraySize (hsize:PlainSize size vla)
  (hnames:names.Plain) (hd:1 < d) :
  Reads names (arraySize (read d)) (printSize size vla) (.punct .rbracket :: rest)
   fun x => x.1.map Expr.withoutPlaces = size.map Expr.withoutPlaces ∧ x.2 = vla := by
 cases hsize with
 | missing =>
  refine (Reads.check .rbracket).look fun b hb => ?_
  obtain rfl : b = true:=hb
  exact .pure ⟨rfl,rfl⟩
 | star =>
  refine (Reads.check .rbracket).look fun b hb => ?_
  obtain rfl : b = false:=hb
  refine (Reads.check .star).look fun b hb => ?_
  obtain rfl : b = true:=hb
  refine (Reads.peeks .rbracket).look fun b hb => ?_
  obtain rfl : b = true:=hb
  exact Reads.advance.next fun _ _ => .pure ⟨rfl,rfl⟩
 | literal n span =>
  refine (Reads.check .rbracket).look fun b hb => ?_
  obtain rfl : b = false:=hb
  refine (Reads.check .star).look fun b hb => ?_
  obtain rfl : b = false:=hb
  refine (Reads.peeks .rbracket).look fun b _ => ?_
  have htrips:=(Expr.Printable.literal (.int n span)).roundTrips hnames.noType
  have hstops:Stops .assignment (.punct .rbracket :: rest):=stops_of_none _ _ rfl
  refine (htrips.inner .assignment trivial (by decide) hd hstops).lookAfter fun e he => ?_
  have hconstant:e.isSyntacticConstant = true := by
   rw [← Expr.mapSpans_isSyntacticConstant fun _ => .nowhere]
   show e.withoutPlaces.isSyntacticConstant = true
   rw [show e.withoutPlaces = _ from he]
   rfl
  rw [hconstant]
  exact .pure ⟨congrArg some he,rfl⟩

lemma reads_arraySuffix (hsize:PlainSize size vla)
  (span:Span) (hnames:names.Plain) (hd:1 < d) :
  Reads names (arraySuffix (read d)) (printArray size vla) rest
   fun s => s.withoutPlaces = (Suffix.array size vla span).withoutPlaces := by
 have hwords:WordsEnd ((printSize size vla ++ [.punct .rbracket]) ++ rest) := by
  cases hsize with
  | missing => exact wordsEnd_punct _ _
  | star => exact wordsEnd_punct _ _
  | literal n span =>
   intro w hw
   cases hw
 refine Reads.advance.next fun _ _ => ?_
 refine (reads_skipArrayQualifiers hwords).look fun _ _ => ?_
 refine (reads_arraySize hsize hnames hd).bind fun x hx => ?_
 obtain ⟨size',vla'⟩:=x
 obtain ⟨hsize',rfl⟩:=hx
 refine (Reads.expect .rbracket).next fun _ _ => ?_
 refine Reads.previous.look fun _ _ => .pure ?_
 exact congrArg (Suffix.array · vla' .nowhere) hsize'

lemma recovered_array (hsize:PlainSize size vla)
  (span:Span) : (Suffix.array size vla span).Recovered := by
 refine ⟨fun us => Or.inl ⟨.lbracket,rfl,by decide,by decide⟩,?_⟩
 intro names d rest ss hnames hd
 have hlength:1 < d := by
  simp only [Suffix.print,printArray,List.length_cons,List.length_append] at hd
  omega
 refine (Reads.check .lbracket).look fun b hb => ?_
 obtain rfl : b = true:=hb
 refine (reads_arraySuffix hsize span hnames hlength).lookAfter fun s hs => ?_
 exact .pure ⟨s,rfl,hs⟩

/-! ### Parameters -/

def Param.withoutPlaces (p:Param) : Param := p.mapSpans fun _ => .nowhere

/-- A parameter that is read back, and that looks like the list `(void)` only if it is one. -/
structure Param.Recovered (p:Param) : Prop where
 starts : ∃ w ts, p.print = .keyword w :: ts
 void : ∀ us, (p.print ++ us).headD .eof = .keyword .kwVoid →
  peekKind (p.print ++ us) = some (.punct .rparen) →
  p.IsVoid ∧ us.headD .eof = .punct .rparen
 reads : ∀ (names:TypeNames) d rest, names.Plain → p.print.length ≤ d → DeclaratorEnds rest →
  ReadsInto names (names.afterParam p.name) (parameter (read d)) p.print rest
   fun p' => p'.withoutPlaces = p.withoutPlaces

def parameterStep (r:Reader) :
  List Param × Bool → Parser (ForInStep (List Param × Bool)) :=
 fun (ps,variadic) => do
  if ← Parser.consume .ellipsis then return .done (ps,true)
  else
   let p ← parameter r
   if ← Parser.consume .comma then return .yield (ps ++ [p],variadic)
   else return .done (ps ++ [p],variadic)

lemma parameters_eq (r:Reader) : parameters r = Parser.loop (parameterStep r) ([],false) := rfl

lemma readsInto_parameterStep {p:Param} (hp:p.Recovered) (hnames:names.Plain)
  (hd:p.print.length ≤ d) (ps:List Param) (variadic:Bool) :
  ReadsInto names (names.afterParam p.name) (parameterStep (read d) (ps,variadic))
   (p.print ++ [.punct .comma]) rest
   fun x => ∃ p', x = .yield (ps ++ [p'],variadic) ∧ p'.withoutPlaces = p.withoutPlaces := by
 obtain ⟨w,ts,hprint⟩:=hp.starts
 have hellipsis :
   ((p.print ++ [TokenKind.punct .comma]) ++ rest).headD .eof ≠ .punct .ellipsis := by
  simp [hprint]
 refine ReadsInto.look (Reads.consume_absent hellipsis) fun b hb => ?_
 rw [hb]
 refine ReadsInto.bind (hp.reads names d _ hnames hd (Or.inr (.inl rfl))) fun p' hp' => ?_
 refine Reads.next (Reads.consume_present .comma) fun b hb => ?_
 rw [hb]
 exact .pure ⟨p',rfl,hp'⟩

lemma readsInto_parameterStep_last {p:Param} (hp:p.Recovered) (hnames:names.Plain)
  (hd:p.print.length ≤ d) (ps:List Param) (variadic:Bool) :
  ReadsInto names (names.afterParam p.name) (parameterStep (read d) (ps,variadic))
   p.print (.punct .rparen :: rest)
   fun x => ∃ p', x = .done (ps ++ [p'],variadic) ∧ p'.withoutPlaces = p.withoutPlaces := by
 obtain ⟨w,ts,hprint⟩:=hp.starts
 have hellipsis:(p.print ++ TokenKind.punct .rparen :: rest).headD .eof ≠ .punct .ellipsis := by
  simp [hprint]
 refine ReadsInto.look (Reads.consume_absent hellipsis) fun b hb => ?_
 rw [hb]
 refine ReadsInto.lookAfter (hp.reads names d _ hnames hd (Or.inl rfl)) fun p' hp' => ?_
 refine Reads.look (Reads.consume_absent (by simp)) fun b hb => ?_
 rw [hb]
 exact .pure ⟨p',rfl,hp'⟩

lemma printParams_cons {ts:List TokenKind} {params:List (List TokenKind)}
  (h:params ≠ [] ∨ variadic = true) :
  printParams (ts :: params) variadic = ts ++ [.punct .comma] ++ printParams params variadic := by
 unfold printParams
 cases params with
 | nil =>
  obtain h | rfl:=h
  · exact absurd rfl h
  · simp
 | cons us params => simp

/-- The loop reads parameters one after another, each in the scope that the ones before it
have left. -/
lemma runs_parameters (params:List Param)
  (hsome:params ≠ [] ∨ variadic = true) (hparams:∀ p ∈ params, p.Recovered)
  (hnames:names.Plain) (hd:(printParams (params.map Param.print) variadic).length ≤ d)
  (done:List Param) {s:ParserState}
  (hs:s.Before names
   (printParams (params.map Param.print) variadic ++ .punct .rparen :: rest)) :
  ∃ ps t, LoopRuns (parameterStep (read d)) (done,false) s (done ++ ps,variadic) t ∧
   ps.map Param.withoutPlaces = params.map Param.withoutPlaces ∧
   t.Before ((params.map (·.name)).foldl TypeNames.afterParam names)
    (.punct .rparen :: rest) := by
 induction params generalizing names done s with
 | nil =>
  obtain hsome | rfl:=hsome
  · exact absurd rfl hsome
  have hstep:Reads names (parameterStep (read d) (done,false)) [.punct .ellipsis]
    (.punct .rparen :: rest) fun x => x = .done (done,true) := by
   refine Reads.lookAfter (Reads.consume_present .ellipsis) fun b hb => ?_
   rw [hb]
   exact .pure rfl
  obtain ⟨_,t,hrun,rfl,ht⟩:=hstep s hs
  exact ⟨[],t,.done (by rw [List.append_nil]; exact hrun),rfl,ht⟩
 | cons p params ih =>
  have hp:=hparams p List.mem_cons_self
  by_cases hmore : params ≠ [] ∨ variadic = true
  · have hprint:printParams ((p :: params).map Param.print) variadic =
      p.print ++ [.punct .comma] ++ printParams (params.map Param.print) variadic :=
     printParams_cons (hmore.imp_left (by simpa using ·))
    rw [hprint,List.append_assoc] at hs
    rw [hprint,List.length_append,List.length_append] at hd
    have hlength:p.print.length ≤ d := by omega
    obtain ⟨_,t,hrun,⟨p',rfl,hp'⟩,ht⟩:=
     readsInto_parameterStep hp hnames hlength done false s hs
    obtain ⟨ps,u,hruns,hps,hu⟩:=ih hmore
     (fun q hq => hparams q (List.mem_cons_of_mem p hq)) (hnames.afterParam p.name) (by omega)
     (done ++ [p']) ht
    have hshorter:t.stream.rest.length < s.stream.rest.length := by
     rw [hs.length,ht.length]
     simp only [List.length_append,List.length_cons,List.length_nil]
     omega
    rw [List.append_assoc] at hruns
    refine ⟨p' :: ps,u,.next hrun hshorter hruns,?_,hu⟩
    rw [List.map_cons,List.map_cons,hp',hps]
  · obtain ⟨rfl,rfl⟩ : params = [] ∧ variadic = false := by simpa using hmore
    have hprint:printParams ([p].map Param.print) false = p.print := by simp [printParams]
    rw [hprint] at hs hd
    obtain ⟨_,t,hrun,⟨p',rfl,hp'⟩,ht⟩:=
     readsInto_parameterStep_last hp hnames hd done false s hs
    exact ⟨[p'],t,.done hrun,by rw [List.map_singleton,List.map_singleton,hp'],ht⟩

/-! ### Parameter lists -/

lemma reads_parameters
  (hsome:params ≠ [] ∨ variadic = true) (hparams:∀ p ∈ params, p.Recovered)
  (hnames:names.Plain) (hd:(printParams (params.map Param.print) variadic).length ≤ d) :
  Reads names (Parser.inScope (parameters (read d)))
   (printParams (params.map Param.print) variadic) (.punct .rparen :: rest)
   fun x => x.1.map Param.withoutPlaces = params.map Param.withoutPlaces ∧ x.2 = variadic := by
 refine Reads.inScope (TypeNames.closeScope_afterParams hnames (params.map (·.name))) ?_
 intro s hs
 obtain ⟨ps,t,hruns,hps,ht⟩:=runs_parameters params hsome hparams hnames.openScope hd [] hs
 refine ⟨(ps,variadic),t,?_,⟨hps,rfl⟩,ht⟩
 rw [parameters_eq]
 exact hruns.loop

lemma printParams_eq_append (p:Param) (params:List Param) (variadic:Bool) :
  ∃ us, printParams ((p :: params).map Param.print) variadic = p.print ++ us ∧
   (us = [] ∧ params = [] ∧ variadic = false ∨ ∃ vs, us = .punct .comma :: vs) := by
 by_cases hmore : params ≠ [] ∨ variadic = true
 · refine ⟨.punct .comma :: printParams (params.map Param.print) variadic,?_,.inr ⟨_,rfl⟩⟩
   rw [List.map_cons,printParams_cons (hmore.imp_left (by simpa using ·)),List.append_assoc]
   rfl
 · obtain ⟨rfl,rfl⟩ : params = [] ∧ variadic = false := by simpa using hmore
   exact ⟨[],by simp [printParams],.inl ⟨rfl,rfl,rfl⟩⟩

lemma printParams_starts
  (hsome:params ≠ [] ∨ variadic = true) (hparams:∀ p ∈ params, p.Recovered) :
  ∃ k us, printParams (params.map Param.print) variadic = k :: us ∧
   ((∃ w, k = .keyword w) ∨ k = .punct .ellipsis) := by
 cases params with
 | nil =>
  obtain hsome | rfl:=hsome
  · exact absurd rfl hsome
  · exact ⟨.punct .ellipsis,[],rfl,.inr rfl⟩
 | cons p params =>
  obtain ⟨us,hprint,-⟩:=printParams_eq_append p params variadic
  obtain ⟨w,ts,hstarts⟩:=(hparams p List.mem_cons_self).starts
  exact ⟨.keyword w,ts ++ us,by rw [hprint,hstarts]; rfl,.inl ⟨w,rfl⟩⟩

lemma printParams_ne_void
  (hvoid:¬IsVoidClause params variadic) (hsome:params ≠ [] ∨ variadic = true)
  (hparams:∀ p ∈ params, p.Recovered) (rest:List TokenKind) :
  ¬((printParams (params.map Param.print) variadic ++ .punct .rparen :: rest).headD .eof =
    .keyword .kwVoid ∧
   peekKind (printParams (params.map Param.print) variadic ++ .punct .rparen :: rest) =
    some (.punct .rparen)) := by
 rintro ⟨hhead,hpeek⟩
 cases params with
 | nil =>
  obtain hsome | rfl:=hsome
  · exact hsome rfl
  · cases hhead
 | cons p params =>
  obtain ⟨us,hprint,hus⟩:=printParams_eq_append p params variadic
  rw [hprint,List.append_assoc] at hhead hpeek
  obtain ⟨hp,hrparen⟩:=(hparams p List.mem_cons_self).void _ hhead hpeek
  obtain ⟨-,rfl,rfl⟩ | ⟨vs,rfl⟩:=hus
  · exact hvoid ⟨rfl,p,rfl,hp⟩
  · cases hrparen

lemma printClause_of_some
  (hsome:params ≠ [] ∨ variadic = true) :
  printClause (params.map Param.print) variadic true =
   printParams (params.map Param.print) variadic := by
 unfold printClause
 rw [if_neg (by decide),if_neg]
 obtain hsome | rfl:=hsome <;> simp [*]

variable (hclause:PlainClause params variadic prototyped)
 (hparams:∀ p ∈ params, p.Recovered)
include hclause hparams

lemma reads_parameterClause (hnames:names.Plain)
  (hd:(printClause (params.map Param.print) variadic prototyped).length ≤ d) :
  Reads names (parameterClause (read d))
   (printClause (params.map Param.print) variadic prototyped) (.punct .rparen :: rest)
   fun x => x.1.map Param.withoutPlaces = params.map Param.withoutPlaces ∧
    x.2 = (variadic,prototyped) := by
 cases hclause with
 | unprototyped =>
  refine (Reads.check .rparen).look fun b hb => ?_
  obtain rfl : b = true:=hb
  exact .pure ⟨rfl,rfl⟩
 | prototype hvoid =>
  by_cases hsome : params ≠ [] ∨ variadic = true
  · rw [printClause_of_some hsome] at hd ⊢
    have hparen:(printParams (params.map Param.print) variadic ++
      TokenKind.punct .rparen :: rest).headD .eof ≠ .punct .rparen := by
     obtain ⟨k,us,hprint,⟨w,rfl⟩ | rfl⟩:=printParams_starts hsome hparams <;>
      simp [hprint]
    refine (Reads.check .rparen).look fun b hb => ?_
    obtain rfl : b = false:=hb.trans (beq_false_of_ne hparen)
    refine (Reads.checkKeyword .kwVoid).look fun b hb => ?_
    refine (Reads.peeks .rparen).look fun b' hb' => ?_
    have hboth:(b && b') = false := by
     rw [hb,hb']
     simpa using printParams_ne_void hvoid hsome hparams rest
    rw [hboth]
    exact (reads_parameters hsome hparams hnames hd).lookAfter fun x hx =>
     .pure ⟨hx.1,by rw [hx.2]⟩
  · obtain ⟨rfl,rfl⟩ : params = [] ∧ variadic = false := by simpa using hsome
    refine (Reads.check .rparen).look fun b hb => ?_
    obtain rfl : b = false:=hb
    refine (Reads.checkKeyword .kwVoid).look fun b hb => ?_
    obtain rfl : b = true:=hb
    refine (Reads.peeks .rparen).look fun b hb => ?_
    obtain rfl : b = true:=hb
    exact Reads.advance.next fun _ _ => .pure ⟨rfl,rfl⟩

lemma reads_functionSuffix (span:Span) (hnames:names.Plain)
  (hd:(printClause (params.map Param.print) variadic prototyped).length ≤ d) :
  Reads names (functionSuffix (read d))
   (printFunction (params.map Param.print) variadic prototyped) rest
   fun s =>
    s.withoutPlaces = (Suffix.function params variadic prototyped span).withoutPlaces := by
 refine Reads.advance.next fun _ _ => ?_
 refine (reads_parameterClause hclause hparams hnames hd).bind fun x hx => ?_
 obtain ⟨ps,variadic',prototyped'⟩:=x
 obtain ⟨hps,hflags⟩:=hx
 obtain ⟨rfl,rfl⟩:=Prod.mk.inj hflags
 refine (Reads.expect .rparen).next fun _ _ => ?_
 refine Reads.previous.look fun _ _ => .pure ?_
 exact congrArg (Suffix.function · variadic' prototyped' .nowhere) hps

lemma printFunction_noCore (us:List TokenKind) :
  NoCore (printFunction (params.map Param.print) variadic prototyped ++ us) := by
 right
 cases hclause with
 | unprototyped => exact ⟨.punct .rparen,us,rfl,Or.inl rfl⟩
 | prototype hvoid =>
  by_cases hsome : params ≠ [] ∨ variadic = true
  · obtain ⟨k,vs,hprint,hk⟩:=printParams_starts hsome hparams
    refine ⟨k,vs ++ [.punct .rparen] ++ us,?_,?_⟩
    · unfold printFunction inParens
      rw [printClause_of_some hsome,hprint]
      simp
    · obtain ⟨w,rfl⟩ | rfl:=hk
      · trivial
      · exact Or.inr rfl
  · obtain ⟨rfl,rfl⟩ : params = [] ∧ variadic = false := by simpa using hsome
    exact ⟨.keyword .kwVoid,.punct .rparen :: us,rfl,trivial⟩

lemma recovered_function (span:Span) : (Suffix.function params variadic prototyped span).Recovered := by
 have hprint:(Suffix.function params variadic prototyped span).print =
   printFunction (params.map Param.print) variadic prototyped := by
  rw [Suffix.print,Param.printAll_eq]
 refine ⟨fun us => ?_,?_⟩
 · rw [hprint]
   exact printFunction_noCore hclause hparams us
 · intro names d rest ss hnames hd
   rw [hprint] at hd ⊢
   have hlength:(printClause (params.map Param.print) variadic prototyped).length ≤ d := by
    simp only [printFunction,inParens,List.length_cons,List.length_append] at hd
    omega
   refine (Reads.check .lbracket).look fun b hb => ?_
   obtain rfl : b = false:=hb
   refine (Reads.check .lparen).look fun b hb => ?_
   obtain rfl : b = true:=hb
   refine (reads_functionSuffix hclause hparams span hnames hlength).lookAfter fun s hs => ?_
   exact .pure ⟨s,rfl,hs⟩

end CCheck
