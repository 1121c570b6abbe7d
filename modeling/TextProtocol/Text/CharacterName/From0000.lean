/-!
# Character names from U+0000 to U+16FF

The names of these characters, in the encoding of `CharacterName`.
-/

namespace TextProtocol.Text.CharacterName

/-- The names of the characters from U+0000 to U+16FF. -/
def from0000 : String :=
  ".naSPACEf~~&l@A0fNO-%EAK.^o&<;AzC!Y)nP%SD.d&G:FCY!UnYEN!UiBROK$C!qkSEC&c,c&)jCOPY%t!UoFE&!$,ORDIN
 !B;~%.z<q!](i=U)R!UiS>);3lREGIS!.ED!Up&(gDEG!x+I)E-,7!UpS<A]Sr:9).mMICRO.dPILC.1,c>$k+fhS<A!4
 pMASCUL$,ORDIN!B;~%.z:w!](i=UVULG$?^>Sz&<,ow!M!d(Z_=j;[qEc.z+fo$d]1*)]1ETHdN!E&lm&O_=z?8!U
 t!M!dO %pn&J]1.V%ymTH%Bu.($.P Sh(Z_=j;[qEc.z+fo$d]1*)]1ETHdN!E&lm&O_=z]P!Un.aO %pn&J]1.V%ymTH%B
 f.V&)<W&(;T&(<W)V;T)V<W<9;T<9!7.z+M.z+g.z+w!m.z+w!7C;lC<t.z;_.z=P(G;_(G=PD ;gD %p;Y&(:%&(;Y)V:%)V
 ;Y(<:%(<;Y<9:%<9;Y)W:%=PG!E+w!mG!E+w!7G!E)V!mG!E)V!7G;lG<tG!E+f!mG!E+f!7$K+w!m$K+w!7H ;gH =)*)&l!m
 *)&l!7*)&(!m*)=<*))V!m*))V!7*)<9!m*)<9!7I;l;.Iw%s+sIJt!6+sIJ*0J!E+w!mJ!E+w!7.0+f!m.0+f
 nRA:H)]+M)]+g)]+f!m)]+f!7)];_)]=P)]>$!m)]>$!7L ;gL =)+5+M+5+g+5+f!m+5+f!7+5;_+5)Wk&ICE)yBY ]u!7)4
 ,w)4:H&O&(,d&(,3)V,d)V,3!]+M&O!]%y!Q&2+sOEt!6+sOE*0*++M*++g*++f!m*++f!7*+;_*+)W:k!E%y?Q%y:k!E+w?Q
 +w:k!E+f?Q+f:k!E)W?Q=P&s+f!m&s+f!7&s;_&s=PT ;gT %p:&&l:L&l:&&(:L&(:&)V:L)V:&;[:L;[:&!]+M&J!]+g&J<9
 :L<9!7W!E+w!mW!E+w!7.V+w!m.V+w!7.V&)qZ!E+MZ!E+gZ;lZ<tZ!E;_Z!E)Wm+t SgB =)B)le$1!q!mB!E$1!q!7)k)aX
 x$n)k)aX.W(IOgC)l!mC)l,VAF+m!:Dj(G$Je$1!q!m(G$1!qn%,DELTA!7&HEkS=Gf(IEgF)l!mF)l,VG)lkAMMAu$nHV*,*^
 d,qnK)l!mK)ll)]!qjAMBDA =)%,Mi+5!n$J!m+5&V!p,<,3.,m$HN,d$HN,VOI+EOI*,P)l!mP)ly!DYRj$R&n!g
 x$n&n!g.W&%s!D&HESH .ey$n&s+B!7&s$J!m&s$J,V&s)(v&J$HN:L$HN,VUPSI$YhV)llY)l!mY)l,VZ ;gZ =)EZH
 a [q!mEZH [qi!C&R!Q+V$f%pw$R&nFIVEy$n&nFIVEw!D&<.Q,q!Q+VWYNNeD!Y!BC*LKm!JER!BC*LKnALVEOLAR C*LK
 o~s*LKw$RDZ!E)Wm !-!WZ!E;_DZ!E=PLJb !-!WJ!mLJ*,NJb !-!WJ!mNJ*,(Z)W;T=P*);_*))W,3)W,d)W:&)W:L)W:&;I
 &(:L;I&(:&;I+M&J;I+g&J;I)W:L;I)W:&;I&u:L;I&u!m%,E.W(Z;I&(;T;I=<A%U%J!T&(!mA%U%J!T=<A$d&(!mA$d=<
 G ;gG =)G!E;_G!E=P.0;_.0)W,3<9,d<9,3OG!4K !T&(,dOG!4K !T=<EZ$K;_EZ$K)WoJ!E=PDZb !-!WZ!mDZ*,G!E+MG
 !E+gHWAIRfWYNNeN!E&u!m+5&u<W&g%J!T+M(Z&g%J!T+gA$d+MA$d+gO >O+MO >O+g(Z<Y;T<Y<W:?;T:?;Y<Y:%<Y;Y:?:%
 :?!7*)<Y!m*)<Y!7*):?!m*):?,3<Y,d<Y,3:?,d:?!7*+<Y!m*+<Y!7*+:?!m*+:?:&<Y:L<Y:&:?:L:?:k!E;e!u?Q;e(6&s
 ;e(5&s;e(6YOGH,BYOGH*0$K;_$K=P+5&V!p,<!m(G,J,VOU+EOU*,Z)l!mZ)l,VA;lA)G;Y+f:%+f,3;I&(,d;I&(,3)v!T&(
 ,d)v!T=<O;lO<tO%U%J!T&(!mO%U%J!T=<.V&(!m.V&(n)],Jl+5,Jl&s,Jl;.JiB :xkQP :xx$RA %pnC,q!mC,q!7)]!q
 k&sDIA$=AL$M,z )SW)5&RrZ )SW)5&R!7.Q!m.Q!7B %pnU !qf%,ViE ;gE =)J,q!mJ,q!Q&2(=Q!E(_&R!mQ!E(_&R!7R
 ,q!mR,q!7Y ;gY %pn%,Ai)Mf%,)MmB)ll(IOg.z,Jl(G&Re$Jl&HEkS=G(b$Jp(IEg&H(IEa)l!m+>&H(IEw;.J,qvG)ll+RG
 v*_Gw$nGAM&yRAMS $HNj%,Hi$K$Jk)4)loI %pmOTAr*_Iw$n)].,m!jTe)(uEZHe%,M(b&V,<w$~$Jl+5!n$Jj)(=lN
 w$n>0Ov*_OEx$n+>(xmPHId%,R(b&V,<i$Js*+&V,<i&Re%(H$JoE!VS!H*+%(H$J=lRb&<R,z)llESHd;.J >O$J,zQU)2&H
 &%sES$K,Jn%,Th!E)(vU !qe$3$YhV)ll%,VbWbYv*_Yw$nZ!E)(o,JlEZH(b,J!Q+V.QmPHARYNGE!BVOIC!HF+m!wVE!Q+V
 &<.QvSTRET$>D ClBILABI!BC*LKo!6%sBw$n+>(IE=lG)llHw$nJ!E?Yt%,Kv*_Lw$nQ)ly!D.Q,qy&H.Q,q!mDZ :x
 jEZH :xlZ =-,JuTS :xjESH :xlC =-,JuFENG :xmLS :xjZ :xx!DBILABI!B$vCUSSIVErD!Y!B$vCUSSIVE!m%,$K%(H
 $J:o&R[FH(b$JlJbRb%,R(b$Js%s&<RsWbYh?%f!]?%m%,:.m]uk&H:.n$N%F(ap=A(ao.Qm&H.Qv!n&jo!p&jp$9&jm%N&j
 o(K).zCARONf+P$7&Un&(g:9).m>Q%g$7&Un&(g>Q:9).q_Bq%F_BvC!Y)%=1(ap=A(aw[lh>,j)E)n,7!Uz)Vf(<j;[k<9
 g!6&ll!]:9).t+PRHOT!X$Jl*y%T).m!6GAM&yLbSbXb&H.Qz+PEX)_-%_<lt%_<lnMID <lm%g<lmEX)_-%g<lsY%)DE$ZT!P
 <mw!Z DE$ZT!P<myVOIC,>UNASPIRATEDl!]]ur%g%N&jo$9&jm!n&jo!p&jnNGi$g>Q!]>Q:9).z+P%g&lj,RC(9
 mBEG%)%_)kp)~%_)knBEG%)%g)ko)~%g)km)+LFf)o(LLFk%g!n!R*u>Q:9).m(K).r&lf&(g%9&Ui)Vf(<iIAERESISj+yk;[
 k!]:9).t)Wf$7&9!ot!]$7&9!ot!$!0).tC+zl:?o%,;e!os;e!ol&H;e!ou;e%J%tr!$!0ACC:I!us:9ACC:I!us!n>I!u
 p!p>I!uq!n(i!oq$HNe=A&g!uu$9>I!un%N>I!up>?!up,7$F!uq&=AT<.!H(_!uw)s(_!uu.*iIAERE)u!up&g!uk;e!u
 kEDI%<h<9g$7&9!ut](!um&<!]ARCH !u)b>(AR!c!uk!rUMFLEX ACC:I!ux:U!ul&<:U!uu)v!ul;i!um%g&Ui!]%g&U
 p)v,hnSHORT?Du+t?DtSHORT?&,hv+t?&,hu=1&g!uv&<](!uvS.i!ulEAG>6!unX !oh$7&lo!]%9&Up!$!0<mp:9<mp[n*t
 lKORONISh;RKA .pp:at](!om(dS$F!ur!]$7&9>1!n(i!uq(W)v!opHOMO&mT!X!oq:5%Y$2!ov<-$&!uw%m$&!ut!$PHEM
 E ?Gp!p:$!ov=A;[uFER%=AhX !uh!n:$!uu!p:$!uf!T$9:$>1=1;[v![%J%tp]gK !uo!]&g!ur]%!om!]:U!ugf&(a !u
 m&lf:?o$Q$&>1.a*.UbCbDbHbMbRbTbVbX=NHETA,BHETA*0AR%zIC SAMPI:<AR%zIC SAMPI.:=fAL,c$0=fAL!U
 s$RPAMPHYLI!:]V:<PAMPHYLI!:]V@37A.::an!6&H[a&D!O+Q[a&D!O&H+Q[a.:,on$RYOT@384s.pf;RKA .p*,.q.p.:AN
 O TELEIAk$R+4!E.prTA!E.po>C.p@38Cp.%!E.p@38Es=Z.ps.K.p:<>C?<.p=N<)RHO@3A3dS<(f>C;RKAt=Z;RKA:<.q.p
 q+4!E.prTA!E.po>C.pp=Z?<.p:<<)R*;,~ SIGMAlS<(f>C;RKAt=Z;RKAw.%!E.ps=Z.ps.K.p&D&2KAI$WsBETA$W
 l&mTA$WmUPSI$Y)l$Wl:9!T$J$Wv;I$J$W.:PHI$WjI$WjKAI$Wk!D:^KOPPAu$n:^KOPPA.:$b!hIGMAn!6$b!hIGMAt!D]V
 o$n]Vu!DKOPPAm$nKOPPAs%QAMPIm.(AMPIyCOP!v&2%QHEIt.(HEI*0FEI,wFEI:HKHEI,BKHEI*0$HI,B$HI*0G!ZIA
 v$nG!ZIAt%s%QHIMAu.(HIMAs$RDEI,wDEIx[n&QPA$WmRHO$Wk[asETT!AYOTk%s&mTA$WuLUN:h+4$Wv&HLUN:h+4$W&D&2
 %QHOs.(HOq%s[asETTER SANs.(ANqRHO,q$Ww%s&H[a&D&2+Q[a&D&2&H+Q[a&6I$d&umOcDJEdGJEd^,IEmDZEdBYELORUSS
 IAN-^,IyYIcJEcLJEdNJEd:reKJEdI!E&um+jUhDZHEeAbBEcVEcG*1DEcIEcZ+7EcIb+jIh~rUbEFc~tfH~(EbYUbA+EAbBE
 cVEcG*1DEcIEcZ+7EcIb+jIh~rUbEFc~tfH~(EbYUbAcI$d&umOcDJEdGJEd^,IEmDZEdBYELORUSSIAN-^,IyYIcJEcLJE
 dNJEd:reKJEdI!E&um+jUhDZHE*0(xu$n(xs$RYAT,wYAT:H:uE%$:uEx$R?J%$?Jx$R:u?J%$:u?J&6<%w$n<%
 u$R:u<%%$:u<%&6KSI,wKSI:H$3,w$3:HFITA,BFITA*0]Uw$n]Uu$R]U!E!]!$!0).%$]U!E!]!$!0).&6UK+EUK*,R)>(x%$
 R)>(x,V.KTITLO%$.KTITLO&6OT+EOT*,KOPPAu$nKOPPAs$*)jwOM>($V!XTITLOf&=AT<.$6oDASIA PNEUMATAo$3LI PNE
 UMATAnOKRYTIEi<x)jw[f)j]W:O*)&R$e!O%Q:O*)&R]WEMISOFT!U$e!O%QEMISOFT!U&6!A!C!vK%$!A!C!vK&6GH$dUP$;N
 %$GH$dUP$;N&6GHE %p%$GHE %p&6GH$d=9%$GH$d=9&6ZH;Z%$ZH;Z&6Z;Z%$Z;Z&6KA=u%$KA=u&6KA!E*k%$KA!E*k&6K
 A %p%$KA %p&6B&tKIR KA%$B&tKIR KAx$R)C)f%$)C)f$e&2+s$CGHEx!6+s$CGHE.WP$d=9%$P$d=9&6[O!:HA%$[O!:HA
 &6ES=u%$ES=u&6T;Z%$T;Z$e&2$b?9U$e!O$b?9Ux%s$b?9U %p$e!O$b?9U %p&6HA=u%$HA=u$e&2+sTE TSEx!6+sTE TSE
 .WCH;Z%$CH;Z&6CH$d*k%$CH$d*k]WHHAt.(HHA*0[O>lHE%$[O>lHE&6[OAN CH;Z%$[OAN CH;ZzC$V,[&=OCHKA*,ZH$d)V
 %$ZH$d)V&6KA)l%$KA)l&6EL!E&R%$EL!E&R&6)C$J%$)C$J&6)C&R%$)C&R&6$_KASSI>lHE%$$_KASSI>lHE&6E$~&R%$E$~
 &Rm&=OCHKA.W(Z)V%$(Z)V&6(Z==(Z&)$e&2+sA IEv!6+sA IEt$RI$d)V%$I$d)V]W=Gu.(=Gs%s%Q=G!E&)$e!O%Q=G!E=>
 ZH$d==ZH$d=>Z$d==Z$d=>[O!:DZE%$[O!:DZE&6*)&(%$*)&(&6*)==*)=>&O==&O=>>0Ox$n>0O.W>0&O==>0&O=>$d==$d
 =>&J&(%$&J&(&6&J==&J=>&J!]%y%$&J!]%y&6CH$d==CH$d=>GH;Z%$GH;Z&6YER&J==YER&J=>GHE >O$J%$GHE >O$J&6HA
 )l%$HA)l&6HA,q%$HA,q&6;4DEw$n;4DEu$R;4D^5DJE.W;4Z^5ZJE.W;4DZJEy$n;4DZJEw$R;4L^5LJE.W;4N^5NJE.WKOM
 I SJEx$nKOMI SJE.W;4T^5TJE.W&HZE%$&HZE,VEL)l%$EL)l&6LHA,wLHA:HRHA,wRHA:HYAE,wYAE:HQA+EQA*,WE+EWE*,
 ALEUT KAx$nALEUT KA.WEL!E=9%$EL!E=9&6)C=9%$)C=9&6P;Z%$P;Z]WHHA=u$e!O%QHHA=u&6)C!n$J%$)C!n$J&6DZZHE
 u$nDZZHEs$RD$>,BD$>*0EL=u%$EL=u@531zAR$hIAN!dAYBdBENdGIMd(,ECHdZAcEHbTcTOcZ*1INIdLIWNeXEHd,sKENdHO
 c,uGHADe$>He$hdYIcNOWd$:dVOc%zdPEHdJHEHe&YSEHdVEWdTIWNeREHdCOcYIWNePIWReKEHdOHcFEH@559s+P=A(az^x]u
 kEM&x)u!8mXC&a&Wq;;,on.$&W+E%,AYBkAYBdBENdGIMd(,ECHdZAcEHbTcTOcZ*1INIdLIWNeXEHd,sKENdHOc,uGHADe$>H
 e$hdYIcNOWd$:dVOc%zdPEHdJHEHe&YSEHdVEWdTIWNeREHdCOcYIWNePIWReKEHdOHcFEHj_AECH YIWNqETT!AYI %pz^x()
 j;3@58Dp(^[k^xE&4ITY!Uz(3[k^xE&4ITY!Uz^xDRAM!U@591sHE%EW ACC:IETNAHTAhSEGOLe$T)+LETkZAQEF QATAN
 fGADOLlTIPEHAgREVIAfZARQAfP&tTAgYETIVfTEVIRfGER&%a MUQDAMk$:YIMjQARNEY $ZAlTELISHA GEDOLAoPAZER
 fATNAH HAFUKHmMUNAHeAHAPAKHhER$_a KEFULAnDARGAfQAD&yTELISHA QETANAoYERAH B$CYOMOoOLEdILUYeDEHI
 eZINORm&kMASORA(hs$L(LVAfHATAF%hGOLfPATAHfQAMATSlIRIQfTSEREfSEGOLfPATAHfQAMATSgHO&aa HAS!A(cVAV
 tQUBUTSgDAGESH %XMAPIQpMETEGk(&$zMA+XqOINT RAFEj(&$zPASEQqOINT)$%)!_h%)!_m(&$6 S$mPASUQv&k$)!_
 j$0!_o;]** HAFU$_wOINT QAMATS QATAN@5D0s!D$<eBETdGIMELfDALETf+7VAVdZAY+HHETdTETdYODd(4KAFj>A.!
 f(4MEMjMEM~SAY(2(4PEi*f(4TSADIlTSADIfQOFd:ieSH(2TAV@5EFkYOD $om+sYIDD;P!]VAVkVAV YODh!]YOD
 zHE%EW ;]GERESHd$:YIM@600!1<k+I!> SANAHk=c)RE !8ERp!> SAF)OMVATl(E&k!os-;~ CUBE ROOTj!+$kROOTs RAY
 e-IND!XP!A*DLE.d,A$*!UzAFGHANI+IRABIC(u&yDATE;foPOET!X!VSE+J%iMISRAfS%V<,HOU =tHE WASSAL&a<V$F=tH
 E ASSAL&apRAH%=ULLAH =tHEqDI <,HOU ANHUrTAK$TLUSn!IL %_TAHd+s:q,0YEH<V!O%_ZAINj~fkEMIC(9j!D!8
 l,QTEXT !8q*U![P(&&W!1,on!DK&tMIRI YEHm&$ZAf:q]R!ol?Hv)c!E?Hu:q*!!uv,-?Hu$<eBEHdTEH !eBUTAicHEH
 e%aMeHAHd$_HeDALdTHALeREHdZA(2SEENdHEENeADdDADdTAHdZAHd)[dGHA+HKE;!:)n(l!_S ;WFARSI ,-&<Vk:)
 n(l(-!1TATWEELh!DFEHd+Xd>A&ad$XMeNO,YHEHd)cd%6MAKSURAmYEHkF)3AT~1ANi~ff$:+)fUKUNfMA+)H !om*!.&
 l+d+R$<o&<DAMMAo&kNO!cGHUNNAqZWARAKAYi%Z!U!OV !on?x!OV !ow.*u&HDAMMAoF,y!E$f,Ht>Y*!!ur-IND!X&S
 r $vC!Y,cDECI!I;fr$*S;ft(~^*r!D;.BEHd+XlS<A$<q%6WASLAeITH >Y*!.&%[%_&$ZAa $<e)co&J?Hs%_*!YEHoTTEH
 aEHgBEEHe;*(ae<i%J:(S%[PEHdTEHEHfBEHEHf*g?Hl+c$7:nNYEHeDYEHe*g=iT$>HaEHhDDALd<=(ae.*a !l!OTAH%[DA
 $TeDA$TfULc<=<i%J:(S%[D<=%;(-yRREHdE>mVh(ae.*j!6V !un.*(+(<x:)xJEHdRE$K%;(-ySEEN:V(+(<
 x<i!u:o%1(-!1%QA(G<yn(l(-%[<[=i;-=i;.FEHl=&![MOV!H!ul!usVEHd=&<i;WPEHEHf+X)Gj=iKEHEHfSW)5KAFj;t(a
 e(<sNGc;t<i;WGAF(b(anNGOEHfGAF!E<ywUEHdAF!E=i=y*3Vh(<j%1(-f!u%[NOON:VoGHUNNAlRNOONf:N(ae=i+oDOACHA
 SH$XpT$>$K(<u;!%w!ooGOAL(b*!:nTEH !eBU,?GOALq)c!E(anK^)OEkOEcUbYUcK^)YUk)c!E:)xVEc~Q,-&Re!6Vq)c)G
 sEb,-<i!uv!q!x(b?H!1()j!DAEj!6%_LIGATURE SA(G,0%6MAKSURA<V!O%_+s?L,0%6MAKSURA<V!O%_%L$Pr=y$<i%aM
 e%1,HkSEENp,QAYAHl<b<RRUB EL HIZBt!IL %_?XZEROmUP!p)NT!Z&vZEROy;.*M$m$_Hu%L!*x!!%hENi%_MA+)k)cdYEH
 d%_YEHdNOONpPL;$OF SAJDAHpEMPTY C!YRE !!&AiH!G&Aw?XH!G&A!EFIL=s*?<V!O%g$XMo!DD<=&<VtRE$K&<V
 z[%&S!1%QHEEN:Vu<_.*sGHAIN:V<V!U SINDHI AM$vS!ljPOST]s$h%[;!&<VzSYRIAC ,Q]qqSUPRAL!3$?()tBL!3$?()
 rPRAL^EpBL^Ep&1C(9qC(9_w>PsSUPRAL^E_w;&SYRIAC SUBL^E_w(VSYRIAC CONT$O&cl$.KLE!:O!jUSgMETO!jUS
 j]gCUS@70Ft.$&Wr!DALAPHfS<AALAPHrBETHeGA!Ia GARSHUNIoDAL)3fOTLE%TDALATH RISHt+7)cdZA(2;OTETH
 a GARSHUNInYUDHa HEh&QHeLAMADHgMIM;hSEM)KHh,~%hM)KHnEb*f&HPElSADHEfQAPHeRISHe=ed$vSI!:BHETHfGHA!I
 gD$T)3wPTHAHA .&f]inZQAPHA .&f]inRBASA .&l+QZLA&.*>k!ZULARuHBASA .&g-ESASA ]isESASA .&lRWAHA
 fFE&!$,!_mQUSH$:YAjRUKKA$_i$f$7(-f!uw(l(-f!uq_I&9.&s)AICf!qREKH@74Dh%Q[wZHA+H$_PHfFEy!t,[<a<i$HIZO
 NT:;;W<a.*(+=i<a<i$8%m!u:o:)%[<a<y(+(<%[<a?x!OV !uw!6Vq*g:)n(l!_S $8%m;WD<=]o!u !l!OTAH%[D<=?x!O
 V ;W,=%ppSE)C%;(-%[;-:)n(l!_S $8%u:n;-]o:n=&<yn(l!_S $8%m;WKE;!(<j%1(-f$8%m;W)T(<f!ut:N<yo!6TAHdV
 r,0!qmRE$K]o:nRE$K?HuSE)C]o:n(M^:!uf!T$f,H!1%QE$C^:!T$f,H%[,=^:!T$f,H%[(M^::n:q_^:nFARSI ,-_^!o
 l%;;W)c!E_^:n%w!q!;!C_^:n*g[%%H%;!u!1%QE)C[%%H%;!o!1%QE)C&<Vu;t:)zTHA(s!DHAAd$:VIYANIjNOONUfRAA
 dBAAdLHAVIYANIjKAAFUfALIFUfVAAVUf$XMUfFAAFUfDHAALUgTHAAeLAAMUfGAAFUeNAVIYANIjSEENUfDA^oZA^oTA^oYAA
 dPA^oJA^o%zVIYANIjTTAAeHHAAe$_AeTHAALUgZAAd)+ENUfAADHUgDAADHUgTOcZOc)[UeGHAINUgQAAFUf+;VUmABA=3
 gABAA=3jIBI=3hEEBEE=3jUBU=3hOOBOO=3jEBE=3gYBEY=3jOBO=3gABOA=3jSUKUNf!DNAA@7C0rNKO ,5!DAb,^IbEbUbOO
 bbDAGBASINNAkNb)x)BTAc,u%zd(,RAbRAdSAcGBAd*((.&NNA WOLOSOj%-NYAc%!cWAc%7NYA WOLOSOkJONA ,u%zdRA
 o%I$4:8:O_ei<D)kr&VDESCEND!P)kp_ei<D)kqNAS<.&Wr!](<zNKO %_&n]uu%g&n]ut=WOO DENNENjGBAKURUNENr;;;A
 qLAJANYALAN@7FDkDANTAYALANjOROME+ITA(m!UoSA!eIT!:!DALAFeBITdGAMANfDALATfIYcBAAdZENdITcTITdYUTdKAAF
 eLABATfMIMdNUNdS!FAAThINcFIcTSAADIYhQUFdRISHeSHANeTAAFl&kINa-ALAFhOCCLU.8j,1kODIFI!A!DEP!YHET!XYUT
 zSA!eIT!:&kEP!YHET!XYUTt%q&VEgEb%9&VAAl&VAAh%A%9&VAk&VAgAm(p%Q:OAx%Z!U S:OAh&VUgUm+PIr%q&VIgIbO
 bSUKUNq&kN$BDAA@830m;]N$BDAAhAFSAAQfNGEDfBAUdATMAAUg.fYYAALAAw.$&Wr;]MELOD!XQITSAnZIQAAfQITSAfZAEF
 e$;UeARKAANUhS$mMASHFAATmANNAAU@840z(mDA,[$TQAfABbGbDbHc,_ENNAhAZcITcATTcK,.(%bScINcAPbSZcQbRbSHcT
 cD,_ENNAiKADd)[kAFF+m&WqVOCALIZ&WrGE&!&W@85Ep+i@860tSYRIAC+V!IAYALAM &5,u&[TTAdNNAbNAeB)O&YLLAbLA
 eSSA@870^tF,yf*=!pF,yy!p*5$Mt!n*5$MsATTAC+*KASRAf,n!pKASRAsR)>(<o$NR)>!_p!nR)>!_oR)>.*y(<
 jATTAC+**=!pF,y(+(<%[:q!p*5*j!T(<^t,n!p^T!T(<^t*=!pF,y(+!n(a%[:q!p*5*j!T!n(a^t,n!p^T!T!n(a^t!p&$ZA
 l!n&$ZA!1TATWEEL!E%9:pCK &$ZAf)co+c;WTH%)YEHpBASEL$,R)>!_s,RR)>!_q!D:N?x!OV%[*g?x!OV ;W<[.*
 j<i;WKE;!]o!u!1$7&R@890nP)>&k!opIASTRE &k!o@898s!6%_?MAL-JUZq%g?MISHMAAMgMAALAgTA)+ELw]R+;JIB
 mS<A%6MOKHASSAS!1%cD MA+)n%F]R%DMA+)v!DBE>mV !un?Hu*8:)y<[:)x=&.*(+=i+X:Vs,0!]!qt)T=i,-<y(+?H
 l(<%[RE$K.en)c%U!-INtROH!F,:YEHm%g$<iD<=<i!u!1%QA(G<i;WGAF!E?x$MySTRA$N)cmZAIN!E&<V :n;-<i;WKAF:V
 s+X:V(+.A(-%[BE>m%L:nPE>m%L:nTE>mTEH !oy,=*3NO!c:n,-<y !l!ONO!c:nAF+m!:FEHd+XdNOONmPE>mVqTE>mV
 pTE>mVq$>>mVsKE+o*3Vs[1=iAF+m!:?L=i*8%1(-f!u%[=y^::n!$Fl!6~Q%_~Q%w!q!;!C<y<V!O%_+Y$5AHiZAHo*RR)>(<
 f!uvSUKUN !ul*R(!!umR)>![IN:J(!!u<V!O%g)ch%_?MAR-RUBlSADd)[d+Xd:NKASRAu%g:NKASRAt%_?M)3-THAL,y
 lS-SAJDAhN-NISFhSAKTAfQIFdWAQFAk=c)RE !8ERp!> SAFHAv)zPUT!H,QAYAHu%,DAM&.!us,4~ffF)3AT~1ANo&n!^(<
 n:)o.e !ok!^.*n<yo.e !up(IF)3AT~1ANn!6%_)coF,y!E(ae(<uKASRA:Vu!n:$!ou!p:$!ov!n:$!uu!p:$!u
 v!]!p:$!o(b!_!1!p:$%J!C!_!1DAMMA:7o!8 SIDE=bNO!cGHUNNA~;$F&<C+zuC:2m%Q:OAhA$E(F(gbLjC<UEi+jEh&_I
 cC<UOi+jOhOb.SNAbNNAe~hj%qOEbOEo%i[^kC<UEi+jEh&_IcC<UOi+jOhOb;Bl%q~lEpAWnOMcSTRESS$F>_gAN>_u>Q:9).
 m%Z!U C<U&VEnUEbUEo!DQAcKHHAeGHHAeZAcDDDHAfR)O*(YYAd(g[UvDANDA;8lIGIT ^Jk>W%iH!G)1AC!P!_v!DC<UAiOE
 bOEdAWcUEbUEd!eWARI +)lZ)O$jYAiGGAdJJAd.QmDDDAeBBAvB)4ALI ANJIe!> C:2@985^l@98Fj&_I@993cO
 b.SNA@9%A?I@9B2cLA@9B6c+l@9BCj%i[^@9C7k&_I@9CBcOb;Bl!DKH!lA TA@9D7qAU ;D@9DCo!DRR%!@9DFdYYA
 d(g[U@9E6v,5!DRA!E$g=*p$0=*zB)4ALI RUPEE !8e!>k&G:FCY =fAT%X$+e!^LE%TTH!:+,DENOMIN%.zB)4ALI.5:FC
 Y DENOMIN%.)aX(AzB)4ALI IS=2gG!lA !8k!D:c(QAv>WS!lHI !8@A01tGURMUKHI$FADAK $4DIk$4DIf*I@A05m+8%+U
 aU@A0Fc,^AI@A13cOOc.SNA@A2Ac?I@A32c<2@A35d(;$:@A38c%!@A3Cj%iNUKTA@A3Ek*e%+UaU@A47c,^AI@A4BcOO
 c;B@A51gUDAAT@A59k!DKHHAeGHHAeZAcRRA@A5EdFA@A66j,5TIPPIfADDAKfIRIdURAdEK ONKARi%iYAK&tl.$$6!U@A81
 yJAR!w[:@A85^lq;dC<UE@A8Fo!D&_Ij;dC<UO@A93o!DOb.SNA@A%A?I@AB2c<2@AB5d,m@ABCj%i[^kC<UE@AC7i&_I
 cC<UO@ACBiOb;B@AD0lOM@AE0c!D(g[U@AE6v,5>WRUPEE!U@AF9k!DZHAk!> SUKUNeHA+)gMA+)Hg.Z-![NUK,?!o
 v(!NUK,?!os!g-(!NUK,?!o@B01zORIYA[:@B05^l@B0Fj&_I@B13cOb.SNA@B2Ac?I@B32c<2@B35d,m@B3Cj%i[^@B47
 k&_I@B4BcOb;B@B55g%9&UnAI ;DnU ;D@B5Co!DRR%!@B5FdYYAd(g[U@B66v,5IS=2g!DWAj~.S@B82zTA*D$F+k@B85
 m+8%+UaU@B8Ec)XAI@B92c*SAUcKA@B99c&5CA@B9CcJA@B9Ec&[TTA@BA3dNNAdTA@BA8cNAbNNAePA@BAEc%-%7RAbRAdLA
 b<2e,m@BBEj*e%+UaU@BC6c)XAI@B,s*S;B@BD0lOM@BD7cAU ;D@BE6o&S+Z$wd+Lh$*tDAY!Ui&qTH.dYEAR)nDEBIT.d+-D
 IT+IAS !o!UnRUPEE.d<k!U@C00qELUGU!U(u>(_E!ozTELUGU[:h.G(QA !ozTELUGU +8(F(gbL@C0Ej)XAI@C12
 c*S.SNA@C2Ac~h@C3Cj%i[^@C46k)XAI@C4Ac*S;B@C55l;DlAI ;D@C58o!D<gDZAdRRRA@C5DeNAKAARA POLLU@C60
 n(g[U@C66v&S@C77k!>)aDD&$m+$%^O _%%H!^_%%H$f_%%H%1_%%H!^(c*b]MUGU +$%H$f(c*b]MUGU +$%H%1(c*b]MUGU
 $FTUUMUrKANNADA!U)1AC(t+ztC:2hSIDD&$^l@C8Ej)XAI@C92c*S.SNA@C%A?IbRAd<2@CB5d,m@CBCj%i[^@CC6
 k)XAI@C,s*S;B@CD5l;DlAI ;D@CDDo!DNAKAARA POLLUnFA@CE0c(g[U@CE6v&S@CF1k%i]^@D00y!IAYALAM!U:[(QA !o
 x:2m!D:c(QAoA$E(F(gbL@D0Ej)XAI@D12c*S.SNAbNNAe~hcTTTAl%i*6 *ctC!r&v*cp:3n.-R@D46k)XAI@D4Ac*S;B
 l!D![REPHp%i$ZA@D54j!DCHILLU MbYbLLLrAU ;Do;y!4-%W-!l-$i[ey!K[em%1E!G[eSq!^^&iENTHj%1^&Sq!^FIFTH
 s!D:^IIk(g[U@D66v&S+Z$wd+Lh$*t~.Sz!IAYALAM D:h!8j!DCHILLU NNbbR:YcK@D81zSIN$TA!U C+zl(QAYA
 k*IYA@D85o!D:Tf:TgE(wfE(wiI(wfI(whU(wfU(whIRU(wfU(wiLU(wfU(wjE(wfE(whAI(whO(wfO(whAU(w@D9A
 gL)^RA(sKA(ws?dKA(wt[GGA(ws?dGA(wtKANTAJA NAASIKYAYAsS_kGA(wpAL)^RAANA C:TsMAHAAPRAANA C:Tt[GJ:T
 s?dJ:TtTAALUJA NAASIKYAYAkSANYOOGA NAAKSIKYAYAzSIN$TA %Q_kJ:Tp[GTT:Tt?dTT:Tu[G+)(wt?d+)(wtUURDHAJ
 A NA(wrS_k+)(wq[GTA(ws?dTA(wt[GDA(ws?dDA(wtDANTAJA NA(w@DB3pS_kDA(wp[GPA(ws?dPA(wt[GB:Ts?dB:Tr(w
 hAMBA B:TmYA(whRA(w@DBDhDANTAJA LA(w@DC0pV:ThTAALUJA S:TpMUURDHAJA S:TrDANTAJA S:TpHA(whMUURDHAJ
 A LA(wrF:T@DCAo%iAL-LAKUNA@DCFo%qAELA=jkKETTI AEDA=jqDIGA AEDA=jpKETTI IS=joDIGA IS=jnKETTI PAA=j@
 DD6pDIGA PAA=j@DD8oGAETTA=jmKOMBUVAhDIGA KOMBUVAmKOMBU DEKAfVA HAA AELA=jkDIGA AELA=jpGAYANUKITTA
 xGAYANUKITTA@DE6w%~H &S@DF2p%qDIGA GAETTA=jkYANUKITTAzSIN$TA ;]KUNDDALIYA!(zTHAI C$.AC(rKO KAI
 fHO $_IcUATdWAId,YRAKH!ZlNGO NGUhCHO CHANc!Fd!ZjSO SOfCHO CHOEiYO Y,>DO CHADAi$2PATAKhHO THAN
 eN!Z&qTHOkPHUTHAOl.ANENgDO DEKg$2TAOfHO TH%3dAHANe.Xj.ANUfBO BAIMAIjPO PLAfHO PH%3jFO FAfPHO PHAN
 iFO FANgPHO SAM&xOlMO &yYO YAKgRO RUAfUcLO L!FgUcWO WAENhSO SALAeRUSIeSUAgHO HIPgLO CHULAiO !Z
 fHO NOKHUKjPAIYANNOIjSARA Ag=zHAN-AKATmSARA AAbMc%+U)XaUhPHINTHU@E3FqUR:FCY&&BAHTt$.AC!. SARA &_E
 cObAI MAIMUANdALAIqLAKKH!ZYAOlMAIYAMOKfTAIKHUg EKcTHOcRIdCHATTAWAmTH&PHAKHATlNI$_!yiYAMAKKANi,tG(m
 r,5^p!ZKHANKHUkKHOMUT@E81vLA=(KObHO S%3@E84eTAM@E86h&=I GHAiNGOdCOc&=I CHAiSO TAM@E8Cg&=I JHAiNYO
 d&=I *T%fNNAiDOcTObHO S%3eTAMh&=I DHAiNOcBOcPObHO S%3iFO TAMgPHO TAMhFO S%3h&=I BHAiMOcYOcLO L!F@E
 A5dOOT@EA7hWOcSANSKRIT&KcSAlO S%3hHO S%3h&=I %<iObHO TAMn?]i%qAb=zKANhAAbMc%+YaYcUaUn%i&=I *c
 q%q=zKONsSEMI%qLOcNYO@EC0s%qEaIcObAYbI@EC6nKO LA@EC8f&n=zEKcTHOcIcCATAWApCANCEL!JI!c!8rNIGGA!yA@ED
 0j&S@EDCkHO NOcMOf!DKHMU GOcNYO@F00tTIBETAN<7OMl&kG(r^rTRUNC%*Al-UM RNAM BCAD MAmG(r:rG MA
 z[A&k=5^rMDUN MAx(yS!PYIG MGO SGAB MAwARET ^rPHUR&KD MAz[A&k^r:rG&KD MAvSBRUL&KDkBS,, YIG MGO
 mKA-;9G YIG MGOr)!SY%<B!X:rGtDE[m!A:rG B<bv$:DeNYIS&KDj:rG&KDkNYIS :rG&KDpRIN CHEN)1%3S&KD
 tG,:!$M&KDo&TET -DZUD <QS ME +t CANz[A&kG(r:rGpLOGOTYPE!U CHAD <QSkLHAG <QSyAS&ZLOGICAL!U S!$ GC!:
 -CH$?<QSv-KHYUD PAjSDONG TSHUGSzTIBETAN$FRDEL DK$?GCIGdNYISeSUMjNAG GCIGdNYISjDK$?RDEL NAGx&Se%F%O
 eZEROp&kBSD$y<QSlNGAS BZUNG NYI ZLAs&TET -DZUD <QS BZHI MIG CANz[A&kNGAS BZ%3 SG%X<QSvCHE MGO
 hTSA -PHRUjGUG <QS GYONcASo!Z KH!Z GYONcASt%iY$?:rSj!e :rSo!D*%*GA@F49c~U)Z^[+lcAbKSSAeFIXED-)mRA
 nKKAdRRA@F71k.-:Yk)XOaOn%iRJES SU NGA ROnNAM BCADo%q&HIaIw%iNYI ZLA NAA DAoSNA LDANn&k$TANTAh&=UTA
 l%iLCI <QSjY!Z <QSkLCE TSA CANlMCHU CANiGRU C!:RGY!FSlM!HRGY!FSp&<MCHU CANvUB:>D$FLCE TSA CAN
 lMCHU CANi&<MCHU CANw!D*%*GA@F99c~U)Z^[+lcAbKSSAeFIXED-)m)Z%7RA@FBEz[AKU RU $_a BZHI MIG CAN
 wCAN$$++$F$jBEATk%bBEATkC!Z TE-UjSBUB -CHALzTIBETAN&&DRIL BUhRDO RJEhPAD&.GDANkRDO RJE RG,:!$M
 rPHUR PAhN%XBUa NYIS -KHYILlGSUM -KHYILlBZHI -KHYIL@FCEyIGN RDEL NAG RDEL DKARjGSUMs&kBSKA-;9G ~J
 xMNYAM YIG ~JwNYIS :rGk=5BRDA RNY!P^rMDUN MAz[A!8 CLOS!PBRDA RNY!PYIG MGO SGAB MAz(^_4y(3_4
 x(^_4:7Sz(3_4:7Sz[A&kLEAD!PMCH!:<QSt)_IL!PMCH!:<QS@1000z;7+V+[NYAcNYAeTT%fDD+A,6*F)ZS%!c%<dAbSH!:A
 g(FEbM!cEfObAUj%qTALL AAh%A(F&_IcM!cIIcOfE !os%i(QAi.*j*If(]gASATj;E>8%7&YW%!y!D$uAT SAp,5%i+x[8
 oSEC&clY:MLOC!wVEi%I+DTEDjA!KE$hTI!4DoGEN!?VEp%QHAcSAd(ga:Yr%q(ga:Yv!DM!c&5J)OBBAbEo;EM!c>8&r%-LA
 z;7 %QGAW KAREN&Kv%Z!U SGAW KAR$CEUy<m SGAW KAR$CHATHIfKE PHOz;7+V~YT)OPWAz;7 %q~YEUcUEz;7$F~Y)k?C
 z;7+VEAS&4 PWO KAR$CNNAdYWAdGHWAz;7 %qGEBA KAR$CImKAYAH OEcUbEEt%QH!:]l,sZAc&[(,&r&xd*()xT)OHA
 o&CSON&P!U)$!:>8WAz;7 %Z!U)$!:%AEa !oh(4Yx!>)$!:)k-2b3b5b6gC%SCIL )k-2b3gEMPHAT!X)kz;7+VRUMAI &=AU
 NG FAx%iRUMAI &=AUNG )k-5yH!:&SoIGN ]Y)k-1b3s%qAIT!cAaItSYMBOL)$!:!4d+!$6zGEORGIAN!d_-OE%nC7
 dYN%nCDcAEN%nD0s!D_-OEdFIcYNcELIFIf%,GANk)[k]q;fz+PGEORG([NARzGEORG([!DAENdH!S)nLABIAL!Uz<5CHO>2(k
 g(8(kl,vf,&(8*wl*&f_KjIOSdS!Z&F~+]Gf,v-(km(8,vk,v-,&&,l^S(kn*&-,vl(8*&k*&-)Yl:=*&n*i-&,l:=*i
 n&,-(k^.&Fa-(kg,&&,jS!Z&FiIOS-))k>^CHh<3n:=&,f(8&,s&F-(k^.*&f*if&,a-(km(8&Fj:mf>^]GkC!yUEUM]c
 qE.XCHIEUM]cu[.:m<*,&[=PAN&Fn(8:mk:m->^CHh<3n>3i))-:mk!yUEUM))f(8))rE.XCHIEUM))f(8))uH$rCH-;Hh)Y
 kTUEUMCH$rCHoE.XCHIEUMCH$rCHs=4-&,n:==4p(8)Yk]T)Yl(k-*wn,v-&Fe))f)Yl^S*&m>UpJ%3>2>UgAaEcYAaEdEOb
 bYEObcObWAaEdOEcYOcUbWEObbIcYUcEUcYIcIbA-ObUdYA-ObYOfEO-ObUbEUfYEO-ObUfO-EObbYEcObUdYO-YAaEcEOdObI
 eU-AaEcEO-EUfYEcUdYU-AbEObbYEObcUbIeEU-UbEUfYI-UeI-Ab%7ObUbEUc>kAh>kAa-EOcUbIh(8>kAkA-EUeYA-U
 dEO-YAgO-YAaEo.X>2~a,&~v*if&,a-&Fk]cj:mf>^]Gf(k-*&f&F-(ks,v<*,&&Fe[..6n^S(kg*&m*&-(k-&Fl,vf*wa-)Y
 s(8*&k*&-*i<*&Fk&,-&Fe)Yl:=&,n(8&Fj[.;Hh]T)Yr*i<**&f&,f]cj[.CH$rCHh)Yl:=*in&,-*&f=4h)Yl:=&,
 n&F<*,&*&f&,k[.:m<*(8(kr(8:mk:m-;Hn>3a-_Hq=4-&,n:==4p)Y-,vf*&f*if&,l]T)Yl(k-,vf&,fCH$rCHh;Hh)Y
 m(8,vz]<<7HAb(NbOaAdL>JHHAb(NbObWAeM>JSZ.sWAeRAb(NbObWAdS.sW%!^wQ:_$EWA@124Ab&*:K50cHAb(NbO:K58
 bWA:K5Ab&*:K60eB>JV>JT>JC>JX:_$EWA:K8Ab&*:K90dN.s)ZY.sWAeGLOTT!B.sWAkK:_$EWA:KB2b&*:KB8cX:_:KC0
 bWA:KC2b&*:KC8eWAb(NbOaAdPHARYNGE!B:_:KD8mZ.sW%!^wYAb(NbOaAdD.s)ZD.sWAeJ>JG:_$EWA@1312b&*@1318
 cG.sWAAfTHA^w%z^w&x^wTS>JZAb(NbOaAeF>JP>JRYAdMYAdFYA@135Dm.GGE&!$z!T;d;Dz]<:[;d;DrGE&!&Wz]<%hC)p
 m+YDSPACEj()j;;[PjC(9f&I:PC(9n,on]q;ft%H%O+Z>hg%Wh,A$*@1380tSY%<BLE%hBATBEIT MWAnM~%BWAnB~%FWA
 nF~%PWAnP?:mTON!B&kYIZETf&EETfRIKRIKg+jRIKRIKmDIFATfKENATfCHIRETgHIDETf&EET-HIDETl,,T@13A0yCHEROKE
 E !D<CbGAc(.G[LHAb[LL<CcM*.Uc&rHNAdNAHc[LQU<CdSAba[L(,TAcDEcTEcDIcTIcDObUbVbLAdTL<CcS<CdW<CcY<C
 cMV@13F8j$nY(7UbVcMV@1400x~GHYPHENg&_;m*SY,)OOjC<6,^IjA$EWEaST-C!;WElIb]QWIlIIc]QWIImOb]QWOlOO
 c]Q:Gn[]:GlWAb]QWAl%A]Q+;n[]+;lAIcY,)Wi.Qm(4%yf&uf,n%F(aq*=%F(an=1(anNGe!]%yf+j,e!hROKESzC~G(4>$
 k+j.mx)Ee>,pENcINcONcANcP&_[Y,)POOkC<6HEEcIkPA]EPWEnPWId&bPWInP]9PWIIoPWOd&bPWOnP]8P:GoP[3PWA
 nP>4P+;oY,)P+;lPb&bPlC<6HjTEbA[Y,)TOOkC<6DEEcIkTA]ETWEnTWId&bTWInTWIIe&bTWIIo!gd&b!gn!gOe&b!gOoTWA
 d&bTWAnTWAAe&bTWAAo[]TWAAmTaTE?yAdKEbA[Y,)KOOkKA]EKWEnKWId&bKWInK]9KWIIoKWOd&bKWOnK]8K:GoK[3KWA
 nK>4K+;o[]K+;mKaWcSOUTH-SLAVEY KEHcIHcOHcAHqC&_[Y,)COOkCA]ECWEnCWId&bCWInC]9CWIIoCWOd&bCWOnC]8C:G
 oC[3CWAnC>4C+;oNAS&QI C+;mCbS]CTHjMEbA[Y,)MOOkMA]EMWEnMWId&bMWInM]9MWIIoMWOd&bMWOnM]8M:GoM[3MWA
 nM>4M+;o[]M+;mMb&bMlMHc,yPASC!:MmS]CMiN&_[Y,)NOOkNA]ENWEnN[3NWAnN>4N+;o[]N+;lbC<6NGkNHcLEbA[Y,)LOO
 kLA]ELWEnLWId&bLWInL]9LWIIoLWOd&bLWOnL]8L:GoL[3LWAnL>4L+;oLb&bLl>8LiSEbA[Y-C!x SOOkSA$EWEd[(WEnSWI
 d[(WInSWIIe[(WIIoSWOd[(WOnSWOOe[(:GoSWAd[(WAnSWAAe[(+;oNAS&QI S+;mSb,yPASCAN SmSWc$U=c SlMOOSE-C
 !x SKnNAS&QI SKWc-WcPWAdTWAdKWAdCWAm)+b%+*SA$EWEe[)WEoSHWIe[)WIoSHWIIf[)WIIpSHWOe[)WOoSH:Gf[):G
 pSHWAe[)WAoSHWAAf[)+;pSHcY&_;m*S,)YOOjA$EWEd&bYWEnYWId&bYWInY]9YWIIoYWOd&bYWOnY]8Y:GoY[3YWAnY>4Y+;
 o[]Y+;mYbBIBLE,)Ym&bYlS]CYIjREb,)REj&bLEmRA;mOaOd&bLOmRAaAd&bLAmR>4R+;oRb&bRl>8RiF&_;m*SA$E>4F+;oF
 b&mdN,)&mkTHIdN,)THIkTHIIeN,)THIIlTH*SA$EWAAf&bTH+;pTHb&m?yAbcY(7Ad**AVIK HEb%+*SA$EeUT HjHK
 cQA;m*SA$EbTLHE?yAe&bRE?yAmNGA;m*SA$EbNGdSAYISI(L?yAk:GDS,)&m?yAbnLH%+*SA$EcTH,)&mb%+*SA$EkAIVILI
 K Bj$UFOOT (7AbW(7AcN(7AcKE?yAmS]CHE?yAjC<6GH>FR>EW>EHW>FTH>ET>FP+1AbbG>EKH>EK+1AbcN>EM>EY>EJU
 kS]CJUjC<6JOb)XIkS]CJIjC<6JAbJ>FL>EDL>FLH>FTLH>E>FZ+1Abb=5ZjDZ>FS+1AbH+1AbcTS>FCH>FTTS+1AlHI!Ui()
 jQAIdNGAIdNG%+*SAaAf:GDS,)THW,^%+*SAaAf(4THt$UFOOT WzOG&$)1;$!8k!DBEITHfLUISeFEARNfSAILeN%0eUATH
 eDAIReTINNEfCOLLdEIRTfMUINeGORTeNGEADALhSTRAIFgRUISeAILMeONNdURcEADHADHhIODHADHhEABHADHhORcUILLEAN
 NiIFINeEAMHANCHOLLlPEITHmFE)3!A!8m&HFE)3!A!8+:A0zRUN,[FEHU FEOH FE FoVbURUZ UR UjYRbbWbTHURISAZ TH
 URS TH%BuETHdANSUZ AhOS OeAC AdESCe^$OSS Or[VOSS OqOaEbNcRAIDO RAD REID RqKAUNAfCENdKAUN KgGb)4
 dGEBO GYFU Gk+nWUNJO WYNN WmHAGLAZ HgEGL Hh^$HAGALL Hu[VHAGALL HtNAUDIZ NYD NAUD Nr[VNAUD Nr]i-N
 iISAZ IS ISS InEbJER!:JhGERd^$$?AEr[V$?ApIWAZ EOHi$vTHO PEOR$kPpALGIZ EOLHXlSOWILO ShIGEL +t-B(TCH
 -SOL Sw$HT-TWIG-SOL SqCbZbTIWAZ TIR TYR Tp[VTYR TqDbBERKAN!:BEORC BJARK!:By[VBJARK!:Bu]i-Pi)o-P
 gEHWAZ EH Ek(mNAZ M!:Mm^$MADR Ms[VMADR MrLAUKAZ )PU LOGR Ls]i-Li!FWAZddDAGAZ DAEG DmOTHAL!:ETHEL O
 pEARdIORdCWEORTHgALCdEALCfSTANe^$YRo[VYRnICEL!lIC-YRmQbXiS!F!N+is+WP!N+iu*y%T+irARLAUG$WnTVIMADUR
 $Wp!jGTHOR$Wp!DKbSHcOOcF(TKS CASKET OScIScEHcACbESC"

end TextProtocol.Text.CharacterName
